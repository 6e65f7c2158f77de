import Mathlib.Data.List.TakeWhile
import BattleMap.Proofs.Outcome
import BattleMap.Statement.Token

namespace BattleMap

/-!
# How tokens make up a line

The scanner takes one token after the other off the front of a line, each as long as
possible.  Here a line is looked at as a whole.  It consists of blanks, of tokens with
blanks behind them, and possibly of a remark; two words that follow each other have a
blank between them, and so have two numbers.  Such a division of a line is the only
one, and the scanner finds it.  A line that cannot be divided has a first character
that belongs to nothing, and the scanner stops there.

All of it is proved by one induction over texts, `cutting_induction`, which takes the
text apart as the scanner does: at its front stands a remark, a blank, a token that
cannot be longer, or a character that belongs to nothing.
-/

namespace Token

/-- Some characters of one class. -/
def IsRun (belongs : Char -> Bool) (text : List Char) : Prop :=
  text ≠ [] ∧ forall c, c ∈ text -> belongs c = true

/-- What a token of each sort can look like.  Letters and digits are those of the basic
alphabet. -/
def IsText : TokenKind -> List Char -> Prop
  | .word, text => IsRun Char.isAlpha text
  | .comma, text => text = [',']
  | .number, text => IsRun Char.isDigit text ∨ Exists fun whole => Exists fun fraction =>
      IsRun Char.isDigit whole ∧ IsRun Char.isDigit fraction ∧ text = whole ++ '.' :: fraction

/-- Nothing but blanks. -/
def IsGap (text : List Char) : Prop :=
  forall c, c ∈ text -> isBlank c = true

/-- Nothing, or a hash sign with anything behind it. -/
def IsRemark (text : List Char) : Prop :=
  text = [] ∨ Exists fun rest => text = '#' :: rest

/-- A character that no token, no blank and no remark starts with. -/
def IsStray (c : Char) : Prop :=
  isBlank c = false ∧ c ≠ '#' ∧ c ≠ ',' ∧ c.isAlpha = false ∧ c.isDigit = false

/-- The tokens make up a text whose first character stands at the given column.  Behind
each token are blanks, at least one if the next token is of the same sort and no comma. -/
inductive MakeUp (line : Int) : Nat -> List Char -> List Token -> Prop where
  | remark {column : Nat} {text : List Char} (isRemark : IsRemark text) : MakeUp line column text []
  | token {column : Nat} {kind : TokenKind} {text gap rest : List Char} {others : List Token}
      (isText : IsText kind text) (isGap : IsGap gap)
      (apart : gap = [] -> forall next, next ∈ others.head? -> next.kind = kind -> kind = .comma)
      (behind : MakeUp line (column + text.length + gap.length) rest others) :
      MakeUp line column (text ++ gap ++ rest) (⟨kind, text, line, column⟩ :: others)

/-- A text from the given column on consists of blanks and of what the tokens make up. -/
def MakeUpFrom (line : Int) (column : Nat) (text : List Char) (tokens : List Token) : Prop :=
  Exists fun gap => Exists fun rest => text = gap ++ rest ∧ IsGap gap ∧
    MakeUp line (column + gap.length) rest tokens

/-- A line consists of the tokens and of what may stand between them. -/
abbrev MakeUpLine (line : Int) (text : List Char) (tokens : List Token) : Prop :=
  MakeUpFrom line 1 text tokens

/-! ## The longest token at the front of a text -/

/-- The rest of a text does not go on with the token before it. -/
def Ends : TokenKind -> List Char -> List Char -> Prop
  | .word, _, rest => forall c, c ∈ rest.head? -> c.isAlpha = false
  | .number, text, rest =>
      (forall c, c ∈ rest.head? -> c.isDigit = false) ∧ ('.' ∈ text ∨ fractionLength rest = 0)
  | .comma, _, _ => True

theorem takeWhile_run {belongs : Char -> Bool} {run rest : List Char}
    (all : forall c, c ∈ run -> belongs c = true)
    (stops : forall c, c ∈ rest.head? -> belongs c = false) :
    (run ++ rest).takeWhile belongs = run := by
  have nothing : rest.takeWhile belongs = [] := by
    cases rest with
    | nil => rfl
    | cons c others => rw [List.takeWhile_cons_of_neg (Bool.eq_false_iff.mp (stops c rfl))]
  rw [List.takeWhile_append_of_pos all, nothing, List.append_nil]

theorem dropWhile_run {belongs : Char -> Bool} {run rest : List Char}
    (all : forall c, c ∈ run -> belongs c = true)
    (stops : forall c, c ∈ rest.head? -> belongs c = false) :
    (run ++ rest).dropWhile belongs = rest := by
  rw [List.dropWhile_append_of_pos all]
  cases rest with
  | nil => rfl
  | cons c others => rw [List.dropWhile_cons_of_neg (Bool.eq_false_iff.mp (stops c rfl))]

/-- A run goes on as long as it can. -/
theorem exists_run (belongs : Char -> Bool) (text : List Char) :
    Exists fun run => Exists fun rest => text = run ++ rest ∧
      (forall c, c ∈ run -> belongs c = true) ∧ forall c, c ∈ rest.head? -> belongs c = false := by
  refine ⟨text.takeWhile belongs, text.dropWhile belongs, List.takeWhile_append_dropWhile.symm,
    fun c member => List.mem_takeWhile_imp member, fun c member => ?_⟩
  have stops := List.head?_dropWhile_not belongs text
  rwa [member] at stops

/-- A token of this sort can start with the character. -/
def Starts : TokenKind -> Char -> Prop
  | .word, c => c.isAlpha = true
  | .number, c => c.isDigit = true
  | .comma, c => c = ','

theorem IsText.exists_starts {kind : TokenKind} {text : List Char} (isText : IsText kind text) :
    Exists fun c => Exists fun rest => text = c :: rest ∧ Starts kind c := by
  have ofRun {belongs : Char -> Bool} {run : List Char} (isRun : IsRun belongs run) :
      Exists fun c => Exists fun rest => run = c :: rest ∧ belongs c = true := by
    rcases List.exists_cons_of_ne_nil isRun.1 with ⟨c, rest, rfl⟩
    exact ⟨c, rest, rfl, isRun.2 c List.mem_cons_self⟩
  cases kind with
  | word => exact ofRun isText
  | comma => exact ⟨',', [], isText, rfl⟩
  | number =>
      rcases isText with digits | ⟨whole, fraction, digits, _, rfl⟩
      · exact ofRun digits
      · rcases ofRun digits with ⟨c, rest, rfl, digit⟩
        exact ⟨c, rest ++ '.' :: fraction, rfl, digit⟩

section Front

variable {line : Int} {column : Nat} {c : Char} {text rest : List Char}

/-- No letter and no digit is a blank. -/
theorem isBlank_of_isAlphanum (belongs : c.isAlphanum = true) : isBlank c = false := by
  refine Bool.eq_false_iff.mpr fun blank => ?_
  simp only [isBlank, Bool.or_eq_true, decide_eq_true_eq] at blank
  rcases blank with (((rfl | rfl) | rfl) | rfl) | rfl <;> cases belongs

theorem isBlank_of_isAlpha (letter : c.isAlpha = true) : isBlank c = false :=
  isBlank_of_isAlphanum (Bool.or_eq_true_iff.mpr (.inl letter))

theorem isBlank_of_isDigit (digit : c.isDigit = true) : isBlank c = false :=
  isBlank_of_isAlphanum (Bool.or_eq_true_iff.mpr (.inr digit))

theorem isAlpha_of_isDigit (digit : c.isDigit = true) : c.isAlpha = false := by
  have small : c.val ≤ '9'.val := of_decide_eq_true (Bool.and_eq_true_iff.mp digit).2
  have noUpper : c.isUpper = false :=
    decide_eq_false fun large => absurd (UInt32.le_trans large.1 small) (by decide)
  have noLower : c.isLower = false :=
    Bool.and_eq_false_iff.mpr (.inl (decide_eq_false fun large =>
      absurd (UInt32.le_trans large small) (by decide)))
  exact Bool.or_eq_false_iff.mpr ⟨noUpper, noLower⟩

theorem scanFrom_blank (blank : isBlank c = true) :
    scanFrom line column (c :: rest) = scanFrom line (column + 1) rest := by
  rw [scanFrom, if_pos blank]

theorem scanFrom_remark (isRemark : IsRemark text) : scanFrom line column text = .ok [] := by
  rcases isRemark with rfl | ⟨rest, rfl⟩
  · rw [scanFrom]
  · rw [scanFrom, if_neg (by decide), if_pos rfl]

theorem scanFrom_stray (stray : IsStray c) :
    scanFrom line column (c :: rest) = .error (strayCharacter c line column) := by
  rcases stray with ⟨noBlank, noHash, noComma, noLetter, noDigit⟩
  rw [scanFrom, noBlank, noLetter, noDigit, if_neg Bool.false_ne_true, if_neg noHash,
    if_neg noComma, if_neg Bool.false_ne_true, if_neg Bool.false_ne_true]

/-- The scanner goes on behind a token of the given length. -/
theorem scanFrom_behind (kind : TokenKind) {length : Nat} (same : length = (c :: text).length) :
    (scanFrom line (column + length) ((text ++ rest).drop (length - 1)) >>= fun others =>
        Except.ok (⟨kind, (c :: (text ++ rest)).take length, line, column⟩ :: others)) =
      scanFrom line (column + (c :: text).length) rest >>= fun others =>
        .ok (⟨kind, c :: text, line, column⟩ :: others) := by
  rw [same, ← List.cons_append, List.take_left' rfl, List.length_cons, Nat.add_sub_cancel,
    List.drop_left' rfl]

theorem scanFrom_word (letters : forall d, d ∈ c :: text -> d.isAlpha = true)
    (ends : Ends .word (c :: text) rest) :
    scanFrom line column (c :: text ++ rest) =
      scanFrom line (column + (c :: text).length) rest >>= fun others =>
        .ok (⟨.word, c :: text, line, column⟩ :: others) := by
  have letter : c.isAlpha = true := letters c List.mem_cons_self
  have length : wordLength (text ++ rest) = (c :: text).length := by
    unfold wordLength
    rw [takeWhile_run (fun d member => letters d (List.mem_cons_of_mem _ member)) ends,
      List.length_cons, Nat.add_comm]
  have noHash : c ≠ '#' := fun same => absurd (same ▸ letter) (by decide)
  have noComma : c ≠ ',' := fun same => absurd (same ▸ letter) (by decide)
  rw [List.cons_append, scanFrom, isBlank_of_isAlpha letter, if_neg Bool.false_ne_true,
    if_neg noHash, if_neg noComma, if_pos letter]
  exact scanFrom_behind .word length

/-- A number is as long as it can be. -/
theorem numberLength_eq (isText : IsText .number (c :: text))
    (ends : Ends .number (c :: text) rest) :
    c.isDigit = true ∧ numberLength (text ++ rest) = (c :: text).length := by
  rcases isText with ⟨_, digits⟩ |
    ⟨whole, fraction, ⟨nonempty, wholeDigits⟩, ⟨positive, digits⟩, same⟩
  · have noPoint : '.' ∉ c :: text := fun member => absurd (digits '.' member) (by decide)
    refine ⟨digits c List.mem_cons_self, ?_⟩
    unfold numberLength
    rw [takeWhile_run (fun d member => digits d (List.mem_cons_of_mem _ member)) ends.1]
    dsimp only
    rw [List.drop_left' rfl, ends.2.resolve_left noPoint, List.length_cons]
    omega
  · rcases List.exists_cons_of_ne_nil nonempty with ⟨d, others, rfl⟩
    rcases List.exists_cons_of_ne_nil positive with ⟨e, tail, rfl⟩
    rcases List.cons.inj (same.trans List.cons_append) with ⟨rfl, rfl⟩
    refine ⟨wholeDigits c List.mem_cons_self, ?_⟩
    have fractionLength_eq : fractionLength ('.' :: e :: (tail ++ rest)) = 2 + tail.length := by
      rw [fractionLength, if_pos (digits e List.mem_cons_self),
        takeWhile_run (fun d member => digits d (List.mem_cons_of_mem _ member)) ends.1]
    unfold numberLength
    rw [List.append_assoc, takeWhile_run
      (fun d member => wholeDigits d (List.mem_cons_of_mem _ member)) (by rintro d ⟨⟩; rfl)]
    dsimp only
    rw [List.drop_left' rfl, List.cons_append, List.cons_append, fractionLength_eq]
    simp only [List.length_cons, List.length_append]
    omega

theorem scanFrom_number (isText : IsText .number (c :: text))
    (ends : Ends .number (c :: text) rest) :
    scanFrom line column (c :: text ++ rest) =
      scanFrom line (column + (c :: text).length) rest >>= fun others =>
        .ok (⟨.number, c :: text, line, column⟩ :: others) := by
  rcases numberLength_eq isText ends with ⟨digit, length⟩
  have noHash : c ≠ '#' := fun same => absurd (same ▸ digit) (by decide)
  have noComma : c ≠ ',' := fun same => absurd (same ▸ digit) (by decide)
  rw [List.cons_append, scanFrom, isBlank_of_isDigit digit, if_neg Bool.false_ne_true,
    if_neg noHash, if_neg noComma, isAlpha_of_isDigit digit, if_neg Bool.false_ne_true,
    if_pos digit]
  exact scanFrom_behind .number length

/-- The scanner takes a token off the front of a text. -/
theorem scanFrom_token {kind : TokenKind} (isText : IsText kind text) (ends : Ends kind text rest) :
    scanFrom line column (text ++ rest) =
      scanFrom line (column + text.length) rest >>= fun others =>
        .ok (⟨kind, text, line, column⟩ :: others) := by
  cases kind with
  | word =>
      rcases List.exists_cons_of_ne_nil isText.1 with ⟨c, others, rfl⟩
      exact scanFrom_word isText.2 ends
  | comma =>
      cases isText
      rw [List.cons_append, scanFrom, if_neg (by decide), if_neg (by decide), if_pos rfl]
      rfl
  | number =>
      rcases isText.exists_starts with ⟨c, others, rfl, _⟩
      exact scanFrom_number isText ends

theorem exists_word (letter : c.isAlpha = true) :
    Exists fun text => Exists fun behind => c :: rest = text ++ behind ∧
      IsText .word text ∧ Ends .word text behind := by
  rcases exists_run Char.isAlpha rest with ⟨run, behind, rfl, letters, stops⟩
  exact ⟨c :: run, behind, rfl,
    ⟨List.cons_ne_nil c run, List.forall_mem_cons.mpr ⟨letter, letters⟩⟩, stops⟩

theorem fractionLength_eq_zero_iff :
    fractionLength text = 0 ↔ forall d, ['.', d] <+: text -> d.isDigit = false := by
  constructor
  · rintro zero d ⟨rest, rfl⟩
    by_contra digit
    simp [fractionLength, digit] at zero
  · intro noDigit
    unfold fractionLength
    split
    · rename_i d rest
      rw [if_neg (Bool.eq_false_iff.mp (noDigit d ⟨rest, rfl⟩))]
    · rfl

/-- A point belongs to a number only if a digit follows. -/
theorem exists_number (digit : c.isDigit = true) :
    Exists fun text => Exists fun behind => c :: rest = text ++ behind ∧
      IsText .number text ∧ Ends .number text behind := by
  rcases exists_run Char.isDigit rest with ⟨run, behind, rfl, digits, stops⟩
  have whole : IsRun Char.isDigit (c :: run) :=
    ⟨List.cons_ne_nil c run, List.forall_mem_cons.mpr ⟨digit, digits⟩⟩
  by_cases fraction : Exists fun d => ['.', d] <+: behind ∧ d.isDigit = true
  · rcases fraction with ⟨d, ⟨others, rfl⟩, first⟩
    rcases exists_run Char.isDigit others with ⟨more, behind, rfl, all, ends⟩
    refine ⟨c :: run ++ '.' :: d :: more, behind, ?_, .inr ⟨_, _, whole, ⟨?_, ?_⟩, rfl⟩, ends,
      .inl List.mem_append_cons_self⟩
    · simp only [List.cons_append, List.nil_append, List.append_assoc]
    · exact List.cons_ne_nil d more
    · exact List.forall_mem_cons.mpr ⟨first, all⟩
  · refine ⟨c :: run, behind, rfl, .inl whole, stops, .inr (fractionLength_eq_zero_iff.mpr ?_)⟩
    exact fun d point => Bool.eq_false_iff.mpr fun next => fraction ⟨d, point, next⟩

/-- What can stand at the front of a text. -/
theorem front_cases (c : Char) (rest : List Char) :
    c = '#' ∨ isBlank c = true ∨ IsStray c ∨
      Exists fun kind => Exists fun text => Exists fun behind => c :: rest = text ++ behind ∧
        IsText kind text ∧ Ends kind text behind := by
  by_cases hash : c = '#'
  · exact .inl hash
  cases blank : isBlank c with
  | true => exact .inr (.inl rfl)
  | false =>
      by_cases comma : c = ','
      · exact .inr (.inr (.inr ⟨.comma, [','], rest, comma ▸ rfl, rfl, trivial⟩))
      cases letter : c.isAlpha with
      | true => exact .inr (.inr (.inr ⟨.word, exists_word letter⟩))
      | false =>
          cases digit : c.isDigit with
          | true => exact .inr (.inr (.inr ⟨.number, exists_number digit⟩))
          | false => exact .inr (.inr (.inl ⟨blank, hash, comma, letter, digit⟩))

end Front

/-- A property of all texts is proved along the front of a text. -/
@[elab_as_elim]
theorem cutting_induction {motive : List Char -> Prop}
    (remark : forall text, IsRemark text -> motive text)
    (blank : forall c rest, isBlank c = true -> motive rest -> motive (c :: rest))
    (token : forall kind text rest, IsText kind text -> Ends kind text rest -> motive rest ->
      motive (text ++ rest))
    (stray : forall c rest, IsStray c -> motive (c :: rest)) (text : List Char) : motive text := by
  induction length : text.length using Nat.strong_induction_on generalizing text with
  | _ n shorter =>
      cases text with
      | nil => exact remark [] (.inl rfl)
      | cons c rest =>
          rcases front_cases c rest with rfl | isBlank | isStray |
            ⟨kind, front, behind, same, isText, ends⟩
          · exact remark _ (.inr ⟨rest, rfl⟩)
          · exact blank c rest isBlank (shorter rest.length (by rw [← length]; simp) rest rfl)
          · exact stray c rest isStray
          · rw [same] at length ⊢
            rcases isText.exists_starts with ⟨d, others, rfl, _⟩
            rw [List.length_append, List.length_cons] at length
            exact token kind _ behind isText ends (shorter behind.length (by omega) behind rfl)

/-! ## The division of a line -/

section Division

variable {line : Int} {column : Nat} {text : List Char} {tokens : List Token}

theorem scanFrom_gap {gap rest : List Char} (isGap : IsGap gap) :
    scanFrom line column (gap ++ rest) = scanFrom line (column + gap.length) rest := by
  induction gap generalizing column with
  | nil => rfl
  | cons c others later =>
      rw [List.cons_append, scanFrom_blank (isGap c List.mem_cons_self),
        later fun d member => isGap d (List.mem_cons_of_mem c member), List.length_cons,
        Nat.add_assoc, Nat.add_comm 1]

/-- What tokens make up starts with a remark or with the first of them. -/
theorem MakeUp.head {c : Char} (makeUp : MakeUp line column text tokens) (first : c ∈ text.head?) :
    c = '#' ∨ Exists fun token => token ∈ tokens.head? ∧ Starts token.kind c := by
  cases makeUp with
  | remark isRemark =>
      rcases isRemark with rfl | ⟨rest, rfl⟩
      · cases first
      · cases first
        exact .inl rfl
  | token isText isGap apart behind =>
      rcases isText.exists_starts with ⟨d, more, rfl, starts⟩
      cases first
      exact .inr ⟨_, rfl, starts⟩

theorem MakeUp.exists_first {next : Token} (makeUp : MakeUp line column text tokens)
    (first : next ∈ tokens.head?) : Exists fun c => c ∈ text.head? ∧ Starts next.kind c := by
  cases makeUp with
  | remark isRemark => cases first
  | token isText isGap apart behind =>
      cases first
      rcases isText.exists_starts with ⟨c, more, rfl, starts⟩
      exact ⟨c, rfl, starts⟩

/-- Only a comma can be followed by its like directly. -/
theorem Ends.eq_comma {kind : TokenKind} {c : Char} {front rest : List Char}
    (ends : Ends kind front rest) (first : c ∈ rest.head?) (starts : Starts kind c) :
    kind = .comma := by
  cases kind with
  | comma => rfl
  | word => cases starts.symm.trans (ends c first)
  | number => cases starts.symm.trans (ends.1 c first)

/-- A token ends before a blank, a remark, and a token of another sort; and a comma ends
anyway. -/
theorem ends_of_head {kind : TokenKind} {front rest : List Char}
    (head : forall c, c ∈ rest.head? -> isBlank c = true ∨ c = '#' ∨
      Exists fun other => Starts other c ∧ (other = kind -> kind = .comma)) :
    Ends kind front rest := by
  cases kind with
  | comma => trivial
  | word =>
      intro c first
      refine Bool.eq_false_iff.mpr fun letter => ?_
      rcases head c first with blank | rfl | ⟨other, starts, different⟩
      · cases (isBlank_of_isAlpha letter).symm.trans blank
      · cases letter
      · cases other with
        | word => cases different rfl
        | number => cases (isAlpha_of_isDigit starts).symm.trans letter
        | comma => cases starts; cases letter
  | number =>
      refine ⟨fun c first => Bool.eq_false_iff.mpr fun digit => ?_,
        .inr (fractionLength_eq_zero_iff.mpr ?_)⟩
      · rcases head c first with blank | rfl | ⟨other, starts, different⟩
        · cases (isBlank_of_isDigit digit).symm.trans blank
        · cases digit
        · cases other with
          | word => cases (isAlpha_of_isDigit digit).symm.trans starts
          | number => cases different rfl
          | comma => cases starts; cases digit
      · rintro d ⟨more, rfl⟩
        rcases head '.' rfl with blank | same | ⟨other, starts, _⟩
        · cases blank
        · cases same
        · cases other <;> cases starts

theorem MakeUp.ends {kind : TokenKind} {front gap rest : List Char} {others : List Token}
    (makeUp : MakeUp line column rest others) (isGap : IsGap gap)
    (apart : gap = [] -> forall next, next ∈ others.head? -> next.kind = kind -> kind = .comma) :
    Ends kind front (gap ++ rest) := by
  refine ends_of_head fun c first => ?_
  cases gap with
  | cons d more =>
      cases first
      exact .inl (isGap c List.mem_cons_self)
  | nil =>
      rcases makeUp.head first with hash | ⟨token, next, starts⟩
      · exact .inr (.inl hash)
      · exact .inr (.inr ⟨token.kind, starts, apart rfl token next⟩)

/-- The scanner finds the tokens that make up a text. -/
theorem MakeUp.scanFrom (makeUp : MakeUp line column text tokens) :
    scanFrom line column text = .ok tokens := by
  induction makeUp with
  | remark isRemark => exact scanFrom_remark isRemark
  | token isText isGap apart behind later =>
      rw [List.append_assoc, scanFrom_token isText (behind.ends isGap apart), scanFrom_gap isGap,
        later]
      rfl

/-- What the scanner finds makes up the text. -/
theorem makeUpFrom_of_scanFrom (scanned : scanFrom line column text = .ok tokens) :
    MakeUpFrom line column text tokens := by
  induction text using cutting_induction generalizing column tokens with
  | remark text isRemark =>
      rw [scanFrom_remark isRemark] at scanned
      cases scanned
      exact ⟨[], text, rfl, fun _ member => (nomatch member), .remark isRemark⟩
  | blank c rest blank later =>
      rw [scanFrom_blank blank] at scanned
      rcases later scanned with ⟨gap, behind, rfl, isGap, makeUp⟩
      refine ⟨c :: gap, behind, rfl, List.forall_mem_cons.mpr ⟨blank, isGap⟩, ?_⟩
      rwa [List.length_cons, Nat.add_comm gap.length, ← Nat.add_assoc]
  | token kind text rest isText ends later =>
      rw [scanFrom_token isText ends] at scanned
      rcases Outcome.bind_eq_ok.mp scanned with ⟨others, found, same⟩
      cases same
      rcases later found with ⟨gap, behind, rfl, isGap, makeUp⟩
      refine ⟨[], text ++ gap ++ behind, (List.append_assoc ..).symm,
        fun _ member => (nomatch member), .token isText isGap ?_ makeUp⟩
      rintro rfl next isNext rfl
      rcases makeUp.exists_first isNext with ⟨c, first, starts⟩
      exact ends.eq_comma first starts
  | stray c rest stray =>
      rw [scanFrom_stray stray] at scanned
      cases scanned

/-- What is left behind a token can be cut off anywhere. -/
theorem Ends.of_append {kind : TokenKind} {front rest more : List Char}
    (ends : Ends kind front (rest ++ more)) : Ends kind front rest := by
  have head : forall c, c ∈ rest.head? -> c ∈ (rest ++ more).head? := by
    intro c first
    rw [List.head?_append, first, Option.some_or]
    rfl
  cases kind with
  | comma => trivial
  | word => exact fun c first => ends c (head c first)
  | number =>
      refine ⟨fun c first => ends.1 c (head c first), ends.2.imp_right ?_⟩
      simp only [fractionLength_eq_zero_iff]
      exact fun noDigit d point => noDigit d (point.trans (List.prefix_append rest more))

theorem IsText.hash_not_mem {kind : TokenKind} {front : List Char} (isText : IsText kind front) :
    '#' ∉ front := by
  cases kind with
  | word => exact fun member => absurd (isText.2 _ member) (by decide)
  | comma => rw [show front = [','] from isText]; decide
  | number =>
      rcases isText with ⟨_, digits⟩ | ⟨whole, fraction, ⟨_, wholeDigits⟩, ⟨_, digits⟩, rfl⟩
      · exact fun member => absurd (digits _ member) (by decide)
      · intro member
        rcases List.mem_append.mp member with member | member
        · exact absurd (wholeDigits _ member) (by decide)
        · rcases List.mem_cons.mp member with same | member
          · cases same
          · exact absurd (digits _ member) (by decide)

/-- The scanner stops at the first character that belongs to nothing, and what stands
before it consists of tokens and blanks. -/
theorem exists_stray_of_scanFrom {fault : Fault}
    (failed : scanFrom line column text = .error fault) :
    Exists fun before => Exists fun c => Exists fun behind => text = before ++ c :: behind ∧
      fault = strayCharacter c line (column + before.length) ∧ IsStray c ∧ '#' ∉ before ∧
        Exists fun tokens => scanFrom line column before = .ok tokens := by
  induction text using cutting_induction generalizing column with
  | remark text isRemark =>
      rw [scanFrom_remark isRemark] at failed
      cases failed
  | blank c rest blank later =>
      rw [scanFrom_blank blank] at failed
      rcases later failed with ⟨before, d, behind, rfl, rfl, stray, noHash, tokens, scanned⟩
      refine ⟨c :: before, d, behind, rfl, ?_, stray, ?_, tokens, ?_⟩
      · rw [List.length_cons, Nat.add_assoc, Nat.add_comm 1]
      · refine fun member => (List.mem_cons.mp member).elim (fun same => ?_) noHash
        cases same
        cases blank
      · rwa [scanFrom_blank blank]
  | token kind text rest isText ends later =>
      rw [scanFrom_token isText ends] at failed
      rcases Outcome.bind_eq_error.mp failed with failed | ⟨_, _, impossible⟩
      · rcases later failed with ⟨before, c, behind, rfl, rfl, stray, noHash, tokens, scanned⟩
        refine ⟨text ++ before, c, behind, (List.append_assoc ..).symm, ?_, stray, ?_,
          ⟨kind, text, line, column⟩ :: tokens, ?_⟩
        · rw [List.length_append, Nat.add_assoc]
        · exact fun member => (List.mem_append.mp member).elim isText.hash_not_mem noHash
        · rw [scanFrom_token isText ends.of_append, scanned]
          rfl
      · cases impossible
  | stray c rest stray =>
      rw [scanFrom_stray stray] at failed
      cases failed
      exact ⟨[], c, rest, rfl, rfl, stray, List.not_mem_nil, [], scanFrom_remark (.inl rfl)⟩

theorem MakeUp.isText (makeUp : MakeUp line column text tokens) :
    forall token, token ∈ tokens -> IsText token.kind token.text := by
  induction makeUp with
  | remark isRemark => exact fun _ member => (nomatch member)
  | token isText isGap apart behind later => exact List.forall_mem_cons.mpr ⟨isText, later⟩

/-- Behind the last token of a text are blanks and a remark only. -/
theorem MakeUp.split_last {last : Token} (makeUp : MakeUp line column text tokens)
    (isLast : last ∈ tokens.getLast?) :
    Exists fun before => Exists fun gap => Exists fun remark => text = before ++ gap ++ remark ∧
      last.endColumn = column + before.length ∧ IsGap gap ∧ IsRemark remark := by
  induction makeUp with
  | remark isRemark => cases isLast
  | @token column kind front gap rest others isText isGap apart behind later =>
      cases others with
      | nil =>
          cases isLast
          cases behind with
          | remark isRemark => exact ⟨front, gap, rest, rfl, rfl, isGap, isRemark⟩
      | cons next more =>
          rw [List.getLast?_cons_cons] at isLast
          rcases later isLast with ⟨before, lastGap, remark, rfl, place, lastIsGap, isRemark⟩
          refine ⟨front ++ gap ++ before, lastGap, remark, ?_, ?_, lastIsGap, isRemark⟩
          · simp only [List.append_assoc]
          · simp only [place, List.length_append]
            omega

theorem scanFrom_eq_ok_iff :
    scanFrom line column text = .ok tokens ↔ MakeUpFrom line column text tokens := by
  constructor
  · exact makeUpFrom_of_scanFrom
  · rintro ⟨gap, rest, rfl, isGap, makeUp⟩
    rw [scanFrom_gap isGap]
    exact makeUp.scanFrom

theorem isText_of_mem_scan (scanned : scan line text = .ok tokens) :
    forall token, token ∈ tokens -> IsText token.kind token.text := by
  rcases scanFrom_eq_ok_iff.mp scanned with ⟨gap, rest, _, _, makeUp⟩
  exact makeUp.isText

/-- The scanner yields exactly the tokens that a line consists of.  A line that consists
of no tokens has a first character that belongs to nothing, behind tokens and blanks
only, and the scanner reports this character and its column. -/
theorem scan_exact (line : Int) (text : List Char) :
    (forall tokens, scan line text = .ok tokens ↔ MakeUpLine line text tokens) ∧
      ((¬ Exists fun tokens => MakeUpLine line text tokens) ↔
        Exists fun before => Exists fun c => Exists fun behind => text = before ++ c :: behind ∧
          scan line text = .error (strayCharacter c line (before.length + 1)) ∧ IsStray c ∧
            '#' ∉ before ∧ Exists fun tokens => MakeUpLine line before tokens) := by
  have divides : forall tokens, scan line text = .ok tokens ↔ MakeUpLine line text tokens :=
    fun tokens => scanFrom_eq_ok_iff
  refine ⟨divides, fun undivided => ?_, ?_⟩
  · cases scanned : scan line text with
    | ok tokens => exact absurd ⟨tokens, (divides tokens).mp scanned⟩ undivided
    | error fault =>
        rcases exists_stray_of_scanFrom scanned with
          ⟨before, c, behind, same, rfl, stray, noHash, tokens, found⟩
        rw [Nat.add_comm]
        exact ⟨before, c, behind, same, rfl, stray, noHash, tokens, scanFrom_eq_ok_iff.mp found⟩
  · rintro ⟨before, c, behind, _, failed, _⟩ ⟨tokens, makeUp⟩
    cases failed.symm.trans ((divides tokens).mpr makeUp)

end Division
end Token
end BattleMap
