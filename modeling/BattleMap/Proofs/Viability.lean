import BattleMap.Proofs.Spelling
import BattleMap.Proofs.Tokenization

namespace BattleMap

/-!
# How far a form can be read

The reader of forms takes one token at a time and knows nothing of the ones behind it.
When it gives up, the tokens it has taken begin some sentence of the form, and the token
at which it gives up continues no such sentence; or else the tokens come to an end before
the sentence does.

A step of the reader is described by `Leads`: a token leads from a form to the form of
what may follow.  In a form without repeated words a token leads to one form only, and
that is why the reader never has to go back.  Sentences are taken as tokens here, not as
parts of a spelling, and a sentence can be continued only by tokens that a line can have.
-/

namespace Form

variable {α : Type}

/-- The tokens write a sentence of the form. -/
def Accepts (form : Form α) (tokens : List Token) : Prop :=
  Exists fun parts => Exists fun value => form.Spells parts value ∧
    tokens.Forall₂ Token.Writes parts

/-- The tokens begin a sentence of the form. -/
def Begins (form : Form α) (tokens : List Token) : Prop :=
  Exists fun more : List Token =>
    (forall token, token ∈ more -> Token.IsText token.kind token.text) ∧
      form.Accepts (tokens ++ more)

/-- After the token, the rest of a sentence of the first form is one of the second. -/
def Leads {α : Type} : Form α -> Token -> Form α -> Prop
  | .done _, _, _ => False
  | .comma next, token, onward => token.kind = .comma ∧ onward = next
  | .whole next, token, onward => token.IsInteger ∧ onward = next (Decimal.value token.text)
  | .fraction next, token, onward =>
      token.kind = .number ∧ onward = next (Decimal.readPlain token.text)
  | .word _ choices next, token, onward => Exists fun choice => choice ∈ choices ∧
      token.Writes (.word choice.1) ∧ onward = next choice.2

/-- Wherever a word belongs in a form, one is listed, and every listed word can be
written. -/
def IsWritable {α : Type} : Form α -> Prop
  | .done _ => True
  | .comma next => next.IsWritable
  | .whole next => forall n, (next n).IsWritable
  | .fraction next => forall x, (next x).IsWritable
  | .word _ choices next => choices ≠ [] ∧ forall choice, choice ∈ choices ->
      Token.IsText .word choice.1.toList ∧ (next choice.2).IsWritable

section Step

variable {form onward other : Form α} {token : Token} {rest : List Token}

theorem IsClear.leads (clear : form.IsClear) (leads : form.Leads token onward) :
    onward.IsClear := by
  cases form with
  | done value => exact leads.elim
  | comma next => exact leads.2 ▸ clear
  | whole next => exact leads.2 ▸ clear _
  | fraction next => exact leads.2 ▸ clear _
  | word expected choices next =>
      rcases leads with ⟨choice, listed, _, rfl⟩
      exact clear.2 choice listed

theorem IsWritable.leads (writable : form.IsWritable) (leads : form.Leads token onward) :
    onward.IsWritable := by
  cases form with
  | done value => exact leads.elim
  | comma next => exact leads.2 ▸ writable
  | whole next => exact leads.2 ▸ writable _
  | fraction next => exact leads.2 ▸ writable _
  | word expected choices next =>
      rcases leads with ⟨choice, listed, _, rfl⟩
      exact (writable.2 choice listed).2

/-- A step of the reader adds one part to the spelling. -/
theorem Leads.exists_part (leads : form.Leads token onward) :
    Exists fun part => token.Writes part ∧
      forall parts value, onward.Spells parts value -> form.Spells (part :: parts) value := by
  cases form with
  | done value => exact leads.elim
  | comma next =>
      rcases leads with ⟨isComma, rfl⟩
      exact ⟨.comma, isComma, fun parts value spelled => ⟨parts, rfl, spelled⟩⟩
  | whole next =>
      rcases leads with ⟨isInteger, rfl⟩
      exact ⟨.whole _, ⟨isInteger, rfl⟩, fun parts value spelled => ⟨_, parts, rfl, spelled⟩⟩
  | fraction next =>
      rcases leads with ⟨isNumber, rfl⟩
      exact ⟨.fraction _, ⟨isNumber, rfl⟩, fun parts value spelled => ⟨_, parts, rfl, spelled⟩⟩
  | word expected choices next =>
      rcases leads with ⟨choice, listed, isWord, rfl⟩
      exact ⟨.word choice.1, isWord, fun parts value spelled =>
        ⟨choice, listed, parts, rfl, spelled⟩⟩

/-- No token leads from a form to two others. -/
theorem IsClear.leads_unique (clear : form.IsClear) (leads : form.Leads token onward)
    (leadsOther : form.Leads token other) : other = onward := by
  cases form with
  | done value => exact leads.elim
  | comma next => exact leadsOther.2.trans leads.2.symm
  | whole next => exact leadsOther.2.trans leads.2.symm
  | fraction next => exact leadsOther.2.trans leads.2.symm
  | word expected choices next =>
      rcases leads with ⟨choice, listed, written, rfl⟩
      rcases leadsOther with ⟨second, secondListed, secondWritten, rfl⟩
      have same := (find?_isWord clear.1 secondListed secondWritten).symm.trans
        (find?_isWord clear.1 listed written)
      rw [Option.some.inj same]

/-- Nothing is a sentence only if nothing is left to read. -/
theorem exists_done_of_accepts_nil (accepted : form.Accepts []) :
    Exists fun value => form = .done value := by
  rcases accepted with ⟨parts, value, spelled, written⟩
  cases written
  cases form with
  | done value => exact ⟨value, rfl⟩
  | comma next => rcases spelled with ⟨_, impossible, _⟩; cases impossible
  | whole next => rcases spelled with ⟨_, _, impossible, _⟩; cases impossible
  | fraction next => rcases spelled with ⟨_, _, impossible, _⟩; cases impossible
  | word expected choices next => rcases spelled with ⟨_, _, _, impossible, _⟩; cases impossible

theorem accepts_cons_iff :
    form.Accepts (token :: rest) ↔
      Exists fun onward => form.Leads token onward ∧ onward.Accepts rest := by
  cases form with
  | done value =>
      constructor
      · rintro ⟨_, _, ⟨rfl, _⟩, written⟩
        cases written
      · rintro ⟨_, impossible, _⟩
        exact impossible.elim
  | comma next =>
      constructor
      · rintro ⟨_, value, ⟨parts, rfl, spelled⟩, _ | ⟨isComma, written⟩⟩
        exact ⟨next, ⟨isComma, rfl⟩, parts, value, spelled, written⟩
      · rintro ⟨_, ⟨isComma, rfl⟩, parts, value, spelled, written⟩
        exact ⟨_, value, ⟨parts, rfl, spelled⟩, .cons isComma written⟩
  | whole next =>
      constructor
      · rintro ⟨_, value, ⟨_, parts, rfl, spelled⟩, _ | ⟨⟨isInteger, rfl⟩, written⟩⟩
        exact ⟨_, ⟨isInteger, rfl⟩, parts, value, spelled, written⟩
      · rintro ⟨_, ⟨isInteger, rfl⟩, parts, value, spelled, written⟩
        exact ⟨_, value, ⟨_, parts, rfl, spelled⟩, .cons ⟨isInteger, rfl⟩ written⟩
  | fraction next =>
      constructor
      · rintro ⟨_, value, ⟨_, parts, rfl, spelled⟩, _ | ⟨⟨isNumber, rfl⟩, written⟩⟩
        exact ⟨_, ⟨isNumber, rfl⟩, parts, value, spelled, written⟩
      · rintro ⟨_, ⟨isNumber, rfl⟩, parts, value, spelled, written⟩
        exact ⟨_, value, ⟨_, parts, rfl, spelled⟩, .cons ⟨isNumber, rfl⟩ written⟩
  | word expected choices next =>
      constructor
      · rintro ⟨_, value, ⟨choice, listed, parts, rfl, spelled⟩, _ | ⟨isWord, written⟩⟩
        exact ⟨_, ⟨choice, listed, isWord, rfl⟩, parts, value, spelled, written⟩
      · rintro ⟨_, ⟨choice, listed, isWord, rfl⟩, parts, value, spelled, written⟩
        exact ⟨_, value, ⟨choice, listed, parts, rfl, spelled⟩, .cons isWord written⟩

/-- A sentence begins with the token exactly if what follows begins the form behind it. -/
theorem begins_cons_iff (clear : form.IsClear) (leads : form.Leads token onward) :
    form.Begins (token :: rest) ↔ onward.Begins rest := by
  constructor
  · rintro ⟨more, legible, accepted⟩
    rcases accepts_cons_iff.mp accepted with ⟨other, leadsOther, behind⟩
    exact ⟨more, legible, clear.leads_unique leads leadsOther ▸ behind⟩
  · rintro ⟨more, legible, accepted⟩
    exact ⟨more, legible, accepts_cons_iff.mpr ⟨onward, leads, accepted⟩⟩

theorem begins_nil_of_leads (token : Token) (isText : Token.IsText token.kind token.text)
    (leads : form.Leads token onward) (begins : onward.Begins []) : form.Begins [] := by
  rcases begins with ⟨more, legible, accepted⟩
  exact ⟨token :: more, List.forall_mem_cons.mpr ⟨isText, legible⟩,
    accepts_cons_iff.mpr ⟨onward, leads, accepted⟩⟩

/-- A sentence of a writable form can be written down. -/
theorem begins_nil (writable : form.IsWritable) : form.Begins [] := by
  have zero : Token.IsText .number ['0'] :=
    .inl ⟨List.cons_ne_nil _ _, List.forall_mem_singleton.mpr rfl⟩
  -- Where the tokens stand does not matter.
  induction form with
  | done value => exact ⟨[], fun _ member => (nomatch member), [], value, ⟨rfl, rfl⟩, .nil⟩
  | comma next later =>
      exact begins_nil_of_leads ⟨.comma, [','], 0, 0⟩ rfl ⟨rfl, rfl⟩ (later writable)
  | whole next later =>
      exact begins_nil_of_leads ⟨.number, ['0'], 0, 0⟩ zero ⟨⟨rfl, by decide⟩, rfl⟩
        (later _ (writable _))
  | fraction next later =>
      exact begins_nil_of_leads ⟨.number, ['0'], 0, 0⟩ zero ⟨rfl, rfl⟩ (later _ (writable _))
  | word expected choices next later =>
      rcases List.exists_mem_of_ne_nil _ writable.1 with ⟨choice, listed⟩
      rcases writable.2 choice listed with ⟨isText, onward⟩
      exact begins_nil_of_leads ⟨.word, choice.1.toList, 0, 0⟩ isText
        ⟨choice, listed, ⟨rfl, rfl⟩, rfl⟩ (later _ onward)

end Step

/-! ## Where the reader gives up -/

/-- Behind the tokens in front no sentence goes on as the given tokens do, or, if there
are none, no sentence ends. -/
def Stops (form : Form α) (front : List Token) : List Token -> Prop
  | [] => ¬ form.Accepts front
  | token :: _ => ¬ form.Begins (front ++ [token])

section Reading

variable {form : Form α} {line : Int} {endColumn : Nat} {fault : Fault}

theorem fault_of_read_nil (failed : form.read ⟨line, endColumn, []⟩ = .error fault) :
    ¬ form.Accepts [] ∧
      Exists fun expected => fault = Cursor.unexpected ⟨line, endColumn, []⟩ expected := by
  constructor
  · intro accepted
    rcases exists_done_of_accepts_nil accepted with ⟨value, rfl⟩
    cases failed
  · cases form with
    | done value => cases failed
    | comma next => cases failed; exact ⟨_, rfl⟩
    | whole next => cases failed; exact ⟨_, rfl⟩
    | fraction next => cases failed; exact ⟨_, rfl⟩
    | word expected choices next => cases failed; exact ⟨_, rfl⟩

/-- Reading fails at the first token only if it leads nowhere or is an integer with too many
digits where an integer belongs; otherwise it fails behind it. -/
theorem fault_of_read_cons {token : Token} {rest : List Token}
    (failed : form.read ⟨line, endColumn, token :: rest⟩ = .error fault) :
    (fault = .tooManyDigits ∧ ¬ token.Fits ∧ Exists fun next => form = .whole next) ∨
      (Exists fun onward => form.Leads token onward ∧
        onward.read ⟨line, endColumn, rest⟩ = .error fault) ∨
      ((forall onward, ¬ form.Leads token onward) ∧ Exists fun expected =>
        fault = Cursor.unexpected ⟨line, endColumn, token :: rest⟩ expected) := by
  cases form with
  | done value =>
      cases failed
      exact .inr (.inr ⟨fun _ => id, _, rfl⟩)
  | comma next =>
      unfold read at failed
      dsimp only at failed
      split at failed
      · exact .inr (.inl ⟨next, ⟨‹_›, rfl⟩, failed⟩)
      · cases failed
        exact .inr (.inr ⟨fun _ leads => absurd leads.1 ‹_›, _, rfl⟩)
  | whole next =>
      unfold read at failed
      dsimp only at failed
      split at failed
      · rename_i isInteger
        rw [Token.isInteger_iff] at isInteger
        split at failed
        · rename_i tooLong
          cases failed
          exact .inl ⟨rfl, fun fits => Nat.not_le.mpr tooLong (fits isInteger), next, rfl⟩
        · exact .inr (.inl ⟨_, ⟨isInteger, rfl⟩, failed⟩)
      · cases failed
        exact .inr (.inr ⟨fun _ leads => absurd (Token.isInteger_iff.mpr leads.1) ‹_›, _, rfl⟩)
  | fraction next =>
      unfold read at failed
      dsimp only at failed
      split at failed
      · exact .inr (.inl ⟨_, ⟨‹_›, rfl⟩, failed⟩)
      · cases failed
        exact .inr (.inr ⟨fun _ leads => absurd leads.1 ‹_›, _, rfl⟩)
  | word expected choices next =>
      unfold read at failed
      dsimp only at failed
      split at failed
      · rename_i choice found
        have isWord : token.isWord choice.1 = true := by simpa using List.find?_some found
        exact .inr (.inl ⟨_, ⟨choice, List.mem_of_find?_eq_some found, Token.isWord_iff.mp isWord,
          rfl⟩, failed⟩)
      · rename_i missing
        cases failed
        refine .inr (.inr ⟨?_, _, rfl⟩)
        rintro _ ⟨choice, listed, written, _⟩
        exact List.find?_eq_none.mp missing choice listed (Token.isWord_iff.mpr written)

/-- The tokens that the reader has taken when it gives up begin a sentence, and the next
one, if there is one, continues none. -/
theorem stops_of_read (clear : form.IsClear) (writable : form.IsWritable) {tokens : List Token}
    (failed : form.read ⟨line, endColumn, tokens⟩ = .error fault) :
    fault = .tooManyDigits ∨ Exists fun front => Exists fun behind => Exists fun expected =>
      tokens = front ++ behind ∧ fault = Cursor.unexpected ⟨line, endColumn, behind⟩ expected ∧
        form.Begins front ∧ form.Stops front behind := by
  induction tokens generalizing form with
  | nil =>
      rcases fault_of_read_nil failed with ⟨unfinished, expected, same⟩
      exact .inr ⟨[], [], expected, rfl, same, begins_nil writable, unfinished⟩
  | cons token rest later =>
      rcases fault_of_read_cons failed with ⟨tooLong, _⟩ | ⟨onward, leads, failed⟩ |
        ⟨nowhere, expected, same⟩
      · exact .inl tooLong
      · refine (later (clear.leads leads) (writable.leads leads) failed).imp_right ?_
        rintro ⟨front, behind, expected, rfl, same, begins, stops⟩
        refine ⟨token :: front, behind, expected, rfl, same,
          (begins_cons_iff clear leads).mpr begins, ?_⟩
        cases behind with
        | nil =>
            intro accepted
            rcases accepts_cons_iff.mp accepted with ⟨other, leadsOther, accepted⟩
            exact stops (clear.leads_unique leads leadsOther ▸ accepted)
        | cons next others => exact fun begins => stops ((begins_cons_iff clear leads).mp begins)
      · refine .inr ⟨[], token :: rest, expected, rfl, same, begins_nil writable, ?_⟩
        rintro ⟨more, _, accepted⟩
        rcases accepts_cons_iff.mp accepted with ⟨onward, leads, _⟩
        exact nowhere onward leads

end Reading
end Form

namespace Grammar

theorem isWritable_statement : Grammar.statement.IsWritable := by
  simp [Grammar.statement, rectangle, sideLine, sides, entity, circle, square, Form.keyword,
    Form.pair, Form.IsWritable, Token.IsText, Token.IsRun]

theorem isWritable_grid : grid.IsWritable := by
  simp [grid, Form.keyword, Form.pair, Form.IsWritable, Token.IsText, Token.IsRun]

end Grammar
end BattleMap
