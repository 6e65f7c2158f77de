import BattleMap.Proofs.Denotation
import BattleMap.Proofs.Lines
import BattleMap.Proofs.Naming
import BattleMap.Proofs.Viability

namespace BattleMap

/-!
# How reading can fail

A text that is no map is answered by a diagnostic: a token or a character that is not
expected, a grid that is missing, declared twice or without cells.  There is one
other way to fail.  An integer with more digits than can be read stops the reader
without a diagnostic, although the text may be a map in every other respect.

It is said here exactly which texts do that.  The reader looks at the tokens one by
one, so the integer has to be at a place where an integer belongs: what stands before
it in its line begins a statement, and the lines before it are in order.  A long
number elsewhere is either never reached or, as a radius, read as a fraction.
-/

/-- The causes of the diagnostics that reading can end with. -/
def Cause.IsOfReading : Cause -> Prop
  | .complaint _ => False
  | .unexpected _ _ | .missingGrid | .duplicateGrid | .outOfRange _ _ => True

/-- A fault that is a diagnostic of reading. -/
def Fault.IsDiagnosis : Fault -> Prop
  | .diagnosed diagnostic => diagnostic.cause.IsOfReading
  | _ => False

/-! ## Forms -/

namespace Form

variable {α : Type}

/-- Behind tokens that begin a sentence of the form stands an integer with too many
digits, at a place where an integer belongs. -/
def Overruns (form : Form α) (tokens : List Token) : Prop :=
  Exists fun front => Exists fun long => Exists fun behind => tokens = front ++ long :: behind ∧
    ¬ long.Fits ∧ Exists fun parts => front.Forall₂ Token.Writes parts ∧
      Exists fun more => Exists fun value =>
        form.Spells (parts ++ .whole (Decimal.value long.text) :: more) value

theorem Overruns.cons {form next : Form α} {token : Token} {rest : List Token} {part : Part}
    (written : token.Writes part) (overruns : next.Overruns rest)
    (goesOn : forall parts value, next.Spells parts value -> form.Spells (part :: parts) value) :
    form.Overruns (token :: rest) := by
  rcases overruns with ⟨front, long, behind, rfl, tooLong, parts, frontWritten, more, value, spelled⟩
  exact ⟨token :: front, long, behind, rfl, tooLong, part :: parts, .cons written frontWritten, more,
    value, goesOn _ _ spelled⟩

/-- What overruns a form that starts with a word starts with one of the words listed. -/
theorem Overruns.head_isWord {β : Type} {expected : String} {choices : List (String × β)}
    {next : β -> Form α} {tokens : List Token}
    (overruns : (Form.word expected choices next).Overruns tokens) :
    Exists fun head => Exists fun others => tokens = head :: others ∧
      Exists fun choice => choice ∈ choices ∧ head.isWord choice.1 = true := by
  rcases overruns with ⟨front, long, behind, rfl, _, parts, written, more, value, choice, listed, rest,
    same, _⟩
  cases written with
  | nil => cases same
  | cons isWord written =>
      cases same
      exact ⟨_, _, rfl, choice, listed, Token.isWord_iff.mpr isWord⟩

theorem isDiagnosis_unexpected (cursor : Cursor) (expected : String) :
    (cursor.unexpected expected).IsDiagnosis := by
  unfold Cursor.unexpected
  split <;> exact trivial

/-- An integer with too many digits overruns a form in which an integer comes first. -/
theorem overruns_whole {next : Int -> Form α} (writable : (Form.whole next).IsWritable)
    {token : Token} {rest : List Token} (tooLong : ¬ token.Fits) :
    (Form.whole next).Overruns (token :: rest) := by
  rcases begins_nil (writable (Decimal.value token.text)) with ⟨_, _, more, value, spelled, _⟩
  exact ⟨[], token, rest, rfl, tooLong, [], .nil, more, value, _, more, rfl, spelled⟩

/-- A form that cannot be read is answered by a diagnostic, unless it overruns. -/
theorem fault_of_read {form : Form α} (writable : form.IsWritable) {cursor : Cursor} {fault : Fault}
    (failed : form.read cursor = .error fault) :
    fault.IsDiagnosis ∨ fault = .tooManyDigits ∧ form.Overruns cursor.tokens := by
  rcases cursor with ⟨line, endColumn, tokens⟩
  induction tokens generalizing form with
  | nil =>
      rcases fault_of_read_nil failed with ⟨_, expected, rfl⟩
      exact .inl (isDiagnosis_unexpected _ _)
  | cons token rest later =>
      rcases fault_of_read_cons failed with ⟨rfl, tooLong, next, rfl⟩ | ⟨onward, leads, behind⟩ |
        ⟨_, expected, rfl⟩
      · exact .inr ⟨rfl, overruns_whole writable tooLong⟩
      · rcases leads.exists_part with ⟨part, written, goesOn⟩
        exact (later (writable.leads leads) behind).imp_right fun overruns =>
          ⟨overruns.1, overruns.2.cons written goesOn⟩
      · exact .inl (isDiagnosis_unexpected _ _)

/-- An integer with too many digits at the place of an integer stops the reader, if no
earlier one does. -/
theorem read_of_overruns {form : Form α} (clear : form.IsClear) {cursor : Cursor}
    (overruns : form.Overruns cursor.tokens) : form.read cursor = .error .tooManyDigits := by
  rcases cursor with ⟨line, endColumn, tokens⟩
  rcases overruns with ⟨front, long, behind, rfl, tooLong, parts, written, more, value, spelled⟩
  induction form generalizing front parts with
  | done item =>
      exact absurd spelled.1 (List.append_ne_nil_of_right_ne_nil parts (List.cons_ne_nil _ more))
  | comma next later =>
      rcases spelled with ⟨rest, same, spelled⟩
      cases written with
      | nil => cases same
      | cons isComma written =>
          cases same
          unfold read
          exact (if_pos isComma).trans (later clear _ _ written spelled)
  | whole next later =>
      rcases spelled with ⟨n, rest, same, spelled⟩
      unfold read
      cases written with
      | nil =>
          have isInteger : long.IsInteger := by
            by_contra other
            exact tooLong fun integer => absurd integer other
          have digits : Decimal.mostDigits < long.text.length :=
            Nat.not_le.mp fun few => tooLong fun _ => few
          exact (if_pos (Token.isInteger_iff.mpr isInteger)).trans (if_pos digits)
      | cons isWhole written =>
          cases same
          rcases isWhole with ⟨isInteger, rfl⟩
          refine (if_pos (Token.isInteger_iff.mpr isInteger)).trans ?_
          split
          · rfl
          · exact later _ (clear _) _ _ written spelled
  | fraction next later =>
      rcases spelled with ⟨x, rest, same, spelled⟩
      cases written with
      | nil => cases same
      | cons isFraction written =>
          cases same
          rcases isFraction with ⟨isNumber, rfl⟩
          unfold read
          exact (if_pos isNumber).trans (later _ (clear _) _ _ written spelled)
  | word expected choices next later =>
      rcases spelled with ⟨choice, listed, rest, same, spelled⟩
      cases written with
      | nil => cases same
      | cons isWord written =>
          cases same
          unfold read
          dsimp only [List.cons_append]
          rw [find?_isWord clear.1 listed isWord]
          exact later _ (clear.2 choice listed) _ _ written spelled

/-- What the reader takes for an integer has few enough digits. -/
theorem exists_fits_of_read {form : Form α} (clear : form.IsClear) {cursor : Cursor} {value : α}
    (result : form.read cursor = .ok value) {parts : List Part} (spelled : form.Spells parts value)
    (written : cursor.tokens.Forall₂ Token.Writes parts) {n : Int} (member : .whole n ∈ parts) :
    Exists fun token => token ∈ cursor.tokens ∧ token.Writes (.whole n) ∧ token.Fits := by
  rcases List.append_of_mem member with ⟨before, more, rfl⟩
  have front := List.forall₂_take_append _ _ _ written
  rcases List.forall₂_cons_right_iff.mp (List.forall₂_drop_append _ _ _ written) with
    ⟨token, behind, isWhole, _, dropped⟩
  have split : cursor.tokens = cursor.tokens.take before.length ++ token :: behind := by
    rw [← dropped, List.take_append_drop]
  refine ⟨token, List.mem_of_mem_drop (dropped ▸ List.mem_cons_self), isWhole, ?_⟩
  by_contra tooLong
  have overruns : form.Overruns cursor.tokens :=
    ⟨_, token, behind, split, tooLong, before, front, more, value, isWhole.2 ▸ spelled⟩
  cases result.symm.trans (read_of_overruns clear overruns)

end Form

/-- A number that was read as an integer can be written. -/
theorem Token.isWritable_of_writes {token : Token} {n : Int}
    (isText : IsText token.kind token.text) (writes : token.Writes (.whole n))
    (fits : token.Fits) : (Number.whole n).IsWritable := by
  rcases writes with ⟨isInteger, rfl⟩
  rw [isInteger.1] at isText
  rcases isText with isRun | ⟨whole, fraction, _, _, pointed⟩
  · exact Decimal.isWritable_value isRun.2 (fits isInteger)
  · exact absurd (pointed ▸ List.mem_append_cons_self) isInteger.2

namespace Grammar

/-- The sizes of a grid that was read can be written. -/
theorem isWritable_of_read_grid {line : Int} {text : List Char} {tokens : List Token}
    {size : GridSize} (scanned : Token.scan line text = .ok tokens)
    (declared : grid.read (.atStart line tokens) = .ok size) :
    (Number.whole size.width).IsWritable ∧ (Number.whole size.height).IsWritable := by
  rcases Form.exists_spells_of_read declared with ⟨parts, spelled, written⟩
  have isWritable : forall n, .whole n ∈ parts -> (Number.whole n).IsWritable := by
    intro n member
    rcases Form.exists_fits_of_read isClear_grid declared spelled written member with
      ⟨token, listed, writes, fits⟩
    exact Token.isWritable_of_writes (Token.isText_of_mem_scan scanned token listed) writes fits
  cases spells_grid_iff.mp spelled
  exact ⟨isWritable _ (by simp [GridSize.spelling, pairSpelling]),
    isWritable _ (by simp [GridSize.spelling, pairSpelling])⟩

/-- So a grid that was read and turns out to have no cells is named in the diagnostic. -/
theorem exists_rejectEmpty_of_read_grid {β : Type} {line : Int} {text : List Char}
    {tokens : List Token} {size : GridSize} (scanned : Token.scan line text = .ok tokens)
    (declared : grid.read (.atStart line tokens) = .ok size) (row column : Option Int) :
    Exists fun name => (size.rejectEmpty row column : Except Fault β) =
      .error (.outOfRange name "width and height must be positive" row column) := by
  rcases size.writtenIf_text.exists_eq_ok (isWritable_of_read_grid scanned declared) with
    ⟨name, named⟩
  refine ⟨name, ?_⟩
  unfold GridSize.rejectEmpty
  rw [named]
  rfl

/-- A line that overruns the grid declaration starts as one. -/
theorem head_of_overruns_grid {tokens : List Token} (overruns : grid.Overruns tokens) :
    Exists fun head => Exists fun others => tokens = head :: others ∧ head.isWord "grid" = true := by
  rcases overruns.head_isWord with ⟨head, others, rfl, choice, listed, isWord⟩
  cases List.mem_singleton.mp listed
  exact ⟨head, others, rfl, isWord⟩

/-- A line that overruns a statement does not start as a grid declaration. -/
theorem head_of_overruns_statement {tokens : List Token}
    (overruns : Grammar.statement.Overruns tokens) :
    Exists fun head => Exists fun others => tokens = head :: others ∧ head.isWord "grid" = false := by
  rcases overruns.head_isWord with ⟨head, others, rfl, choice, listed, isWord⟩
  refine ⟨head, others, rfl, Bool.eq_false_iff.mpr fun isGrid => ?_⟩
  have same := Token.word_unique (Token.isWord_iff.mp isWord) (Token.isWord_iff.mp isGrid)
  have different : forall choice, choice ∈ [("rect", Opening.rect), ("xor", Opening.xor),
      ("line", Opening.line), ("entity", Opening.entity)] -> choice.1 ≠ "grid" := by simp
  exact different choice listed same

end Grammar

/-! ## Lines -/

/-- A character that starts no token is answered by a diagnostic. -/
theorem Token.isDiagnosis_of_scanFrom {line : Int} {column : Nat} {text : List Char} {fault : Fault}
    (failed : scanFrom line column text = .error fault) : fault.IsDiagnosis := by
  fun_induction scanFrom line column text with
  | case1 => cases failed
  | case2 column c rest blank later => exact later failed
  | case3 => cases failed
  | case4 column rest _ _ later =>
      rcases Outcome.bind_eq_error.mp failed with failed | ⟨_, _, impossible⟩
      · exact later failed
      · cases impossible
  | case5 column c rest _ _ _ _ length later =>
      rcases Outcome.bind_eq_error.mp failed with failed | ⟨_, _, impossible⟩
      · exact later failed
      · cases impossible
  | case6 column c rest _ _ _ _ _ length later =>
      rcases Outcome.bind_eq_error.mp failed with failed | ⟨_, _, impossible⟩
      · exact later failed
      · cases impossible
  | case7 =>
      cases failed
      trivial

namespace Document

/-- Among the lines behind the grid declaration, the first that is no statement has an
integer with too many digits where it could still become one. -/
def StatementsOverrun (lines : List Line) : Prop :=
  Exists fun before => Exists fun line => Exists fun behind => Exists fun tokens =>
    lines = before ++ line :: behind ∧
      (Exists fun statements => readStatements before = .ok statements) ∧
      Token.scan line.1 line.2 = .ok tokens ∧ Grammar.statement.Overruns tokens

/-- The first line that is wrong has an integer with too many digits where it could still
become right: as the declaration of the grid or as a statement in front of it, if no
earlier line has any tokens, and as a statement otherwise. -/
def Overruns (lines : List Line) : Prop :=
  Exists fun before => Exists fun line => Exists fun behind => Exists fun tokens =>
    lines = before ++ line :: behind ∧ Token.scan line.1 line.2 = .ok tokens ∧
      ((tokenLines before = .ok [] ∧
          (Grammar.grid.Overruns tokens ∨ Grammar.statement.Overruns tokens)) ∨
        ((Exists fun document => readLines before = .ok document) ∧
          Grammar.statement.Overruns tokens))

/-- Lines behind statements that can be read are read as they are alone. -/
theorem readStatements_append {before rest : List Line} {statements : List (Placed Statement)}
    (result : readStatements before = .ok statements) :
    readStatements (before ++ rest) =
      readStatements rest >>= fun later => .ok (statements ++ later) := by
  induction before generalizing statements with
  | nil =>
      cases result
      change readStatements rest = _
      cases readStatements rest <;> rfl
  | cons line before behind =>
      rw [List.cons_append]
      cases scanned : Token.scan line.1 line.2 with
      | error fault =>
          rw [readStatements_cons_of_error scanned] at result
          cases result
      | ok tokens =>
          cases tokens with
          | nil =>
              rw [readStatements_cons_of_blank scanned] at result
              rw [readStatements_cons_of_blank scanned, behind result]
          | cons head others =>
              rcases (readStatements_cons_eq_ok scanned).mp result with
                ⟨noGrid, statement, first, later, after, rfl⟩
              rw [readStatements_cons scanned noGrid, first, behind after]
              cases readStatements rest <;> rfl

/-- Lines without tokens in front of a map do not count. -/
theorem readLines_append_of_blank {before rest : List Line} (blank : tokenLines before = .ok []) :
    readLines (before ++ rest) = readLines rest := by
  induction before with
  | nil => rfl
  | cons line before behind =>
      rw [List.cons_append]
      cases scanned : Token.scan line.1 line.2 with
      | error fault =>
          rw [tokenLines_cons_of_error scanned] at blank
          cases blank
      | ok tokens =>
          cases tokens with
          | nil =>
              rw [tokenLines_cons_of_blank scanned] at blank
              rw [readLines_cons_of_blank scanned, behind blank]
          | cons head others =>
              rcases (tokenLines_cons_eq_ok scanned).mp blank with ⟨_, _, impossible⟩
              cases impossible

/-- Lines behind a map are read as further statements. -/
theorem readLines_append {before rest : List Line} {document : Document}
    (result : readLines before = .ok document) :
    readLines (before ++ rest) = readStatements rest >>= fun later =>
      .ok ⟨document.grid, document.statements ++ later⟩ := by
  induction before with
  | nil => cases result
  | cons line before behind =>
      rw [List.cons_append]
      cases scanned : Token.scan line.1 line.2 with
      | error fault =>
          rw [readLines_cons_of_error scanned] at result
          cases result
      | ok tokens =>
          cases tokens with
          | nil =>
              rw [readLines_cons_of_blank scanned] at result
              rw [readLines_cons_of_blank scanned, behind result]
          | cons head others =>
              cases isGrid : head.isWord "grid" with
              | true =>
                  rw [readLines_cons_of_grid scanned isGrid] at result
                  rcases Outcome.bind_eq_ok.mp result with ⟨grid, declared, result⟩
                  rcases Outcome.bind_eq_ok.mp result with ⟨statements, after, same⟩
                  cases same
                  rw [readLines_cons_of_grid scanned isGrid, declared, readStatements_append after]
                  cases readStatements rest <;> rfl
              | false =>
                  rw [readLines_cons_of_statement scanned isGrid] at result
                  exact absurd result Outcome.bind_error_ne_ok

/-! ## What stops the reader -/

theorem StatementsOverrun.cons {line : Line} {rest : List Line} (overrun : StatementsOverrun rest)
    (goesOn : forall before statements, readStatements before = .ok statements ->
      Exists fun all => readStatements (line :: before) = .ok all) :
    StatementsOverrun (line :: rest) := by
  rcases overrun with ⟨before, long, behind, tokens, rfl, ⟨statements, read⟩, found⟩
  exact ⟨line :: before, long, behind, tokens, rfl, goesOn before statements read, found⟩

/-- Statements that cannot be read are answered by a diagnostic, unless they overrun. -/
theorem fault_of_readStatements {lines : List Line} {fault : Fault}
    (failed : readStatements lines = .error fault) :
    fault.IsDiagnosis ∨ fault = .tooManyDigits ∧ StatementsOverrun lines := by
  induction lines with
  | nil => cases failed
  | cons line rest later =>
      cases scanned : Token.scan line.1 line.2 with
      | error other =>
          rw [readStatements_cons_of_error scanned] at failed
          cases failed
          exact .inl (Token.isDiagnosis_of_scanFrom scanned)
      | ok tokens =>
          cases tokens with
          | nil =>
              rw [readStatements_cons_of_blank scanned] at failed
              exact (later failed).imp_right fun overrun => ⟨overrun.1, overrun.2.cons
                fun before statements read =>
                  ⟨statements, (readStatements_cons_of_blank scanned).trans read⟩⟩
          | cons head others =>
              cases isGrid : head.isWord "grid" with
              | true =>
                  rw [readStatements_cons_of_grid scanned isGrid] at failed
                  cases failed
                  exact .inl trivial
              | false =>
                  rw [readStatements_cons scanned isGrid] at failed
                  rcases Outcome.bind_eq_error.mp failed with failed | ⟨statement, first, failed⟩
                  · exact (Form.fault_of_read Grammar.isWritable_statement failed).imp_right
                      fun overruns => ⟨overruns.1, [], line, rest, _, rfl, ⟨[], rfl⟩, scanned,
                        overruns.2⟩
                  rcases Outcome.bind_eq_error.mp failed with failed | ⟨_, _, impossible⟩
                  · exact (later failed).imp_right fun overrun => ⟨overrun.1, overrun.2.cons
                      fun before statements read => ⟨_, (readStatements_cons_eq_ok scanned).mpr
                        ⟨isGrid, statement, first, statements, read, rfl⟩⟩⟩
                  · cases impossible

theorem readStatements_of_overrun {lines : List Line} (overrun : StatementsOverrun lines) :
    readStatements lines = .error .tooManyDigits := by
  rcases overrun with ⟨before, line, behind, tokens, rfl, ⟨statements, read⟩, scanned, overruns⟩
  rcases Grammar.head_of_overruns_statement overruns with ⟨head, others, rfl, noGrid⟩
  rw [readStatements_append read, readStatements_cons scanned noGrid,
    Form.read_of_overruns Grammar.isClear_statement overruns]
  rfl

/-- A grid that cannot be read is answered by a diagnostic, unless it overruns. -/
theorem fault_of_readGrid {line : Line} {head : Token} {others : List Token} {fault : Fault}
    (scanned : Token.scan line.1 line.2 = .ok (head :: others))
    (failed : readGrid line.1 head others = .error fault) :
    fault.IsDiagnosis ∨ fault = .tooManyDigits ∧ Grammar.grid.Overruns (head :: others) := by
  rcases Outcome.bind_eq_error.mp failed with failed | ⟨size, declared, failed⟩
  · exact Form.fault_of_read Grammar.isWritable_grid failed
  · split at failed
    · cases failed
    · rcases Grammar.exists_rejectEmpty_of_read_grid scanned declared _ _ with ⟨name, rejected⟩
      cases rejected.symm.trans failed
      exact .inl trivial

/-- Lines that are no map are answered by a diagnostic, unless they overrun. -/
theorem fault_of_readLines {lines : List Line} {fault : Fault}
    (failed : readLines lines = .error fault) :
    fault.IsDiagnosis ∨ fault = .tooManyDigits ∧ Overruns lines := by
  induction lines with
  | nil =>
      cases failed
      exact .inl trivial
  | cons line rest later =>
      cases scanned : Token.scan line.1 line.2 with
      | error other =>
          rw [readLines_cons_of_error scanned] at failed
          cases failed
          exact .inl (Token.isDiagnosis_of_scanFrom scanned)
      | ok tokens =>
          cases tokens with
          | nil =>
              rw [readLines_cons_of_blank scanned] at failed
              refine (later failed).imp_right fun overruns => ⟨overruns.1, ?_⟩
              rcases overruns.2 with ⟨before, long, behind, tokens, rfl, found, ⟨blank, overruns⟩ |
                ⟨⟨document, read⟩, overruns⟩⟩
              · exact ⟨line :: before, long, behind, tokens, rfl, found,
                  .inl ⟨(tokenLines_cons_of_blank scanned).trans blank, overruns⟩⟩
              · exact ⟨line :: before, long, behind, tokens, rfl, found,
                  .inr ⟨⟨document, (readLines_cons_of_blank scanned).trans read⟩, overruns⟩⟩
          | cons head others =>
              cases isGrid : head.isWord "grid" with
              | true =>
                  rw [readLines_cons_of_grid scanned isGrid] at failed
                  rcases Outcome.bind_eq_error.mp failed with failed | ⟨grid, declared, failed⟩
                  · exact (fault_of_readGrid scanned failed).imp_right fun overruns =>
                      ⟨overruns.1, [], line, rest, _, rfl, scanned, .inl ⟨rfl, .inl overruns.2⟩⟩
                  rcases Outcome.bind_eq_error.mp failed with failed | ⟨_, _, impossible⟩
                  · refine (fault_of_readStatements failed).imp_right fun overrun => ⟨overrun.1, ?_⟩
                    rcases overrun.2 with
                      ⟨before, long, behind, tokens, rfl, ⟨statements, read⟩, found, overruns⟩
                    refine ⟨line :: before, long, behind, tokens, rfl, found,
                      .inr ⟨⟨⟨grid, statements⟩, ?_⟩, overruns⟩⟩
                    rw [readLines_cons_of_grid scanned isGrid, declared, read]
                    rfl
                  · cases impossible
              | false =>
                  rw [readLines_cons_of_statement scanned isGrid] at failed
                  rcases Outcome.bind_eq_error.mp failed with failed | ⟨_, _, failed⟩
                  · exact (Form.fault_of_read Grammar.isWritable_statement failed).imp_right
                      fun overruns => ⟨overruns.1, [], line, rest, _, rfl, scanned,
                        .inl ⟨rfl, .inr overruns.2⟩⟩
                  · cases failed
                    exact .inl trivial

theorem readLines_of_overruns {lines : List Line} (overruns : Overruns lines) :
    readLines lines = .error .tooManyDigits := by
  rcases overruns with ⟨before, line, behind, tokens, rfl, scanned, ⟨blank, overruns | overruns⟩ |
    ⟨⟨document, read⟩, overruns⟩⟩
  · rcases Grammar.head_of_overruns_grid overruns with ⟨head, others, rfl, isGrid⟩
    rw [readLines_append_of_blank blank, readLines_cons_of_grid scanned isGrid, readGrid,
      Form.read_of_overruns Grammar.isClear_grid overruns]
    rfl
  · rcases Grammar.head_of_overruns_statement overruns with ⟨head, others, rfl, noGrid⟩
    rw [readLines_append_of_blank blank, readLines_cons_of_statement scanned noGrid,
      Form.read_of_overruns Grammar.isClear_statement overruns]
    rfl
  · have stopped : readStatements (line :: behind) = .error .tooManyDigits :=
      readStatements_of_overrun ⟨[], line, behind, tokens, rfl, ⟨[], rfl⟩, scanned, overruns⟩
    rw [readLines_append read, stopped]
    rfl

/-- A text is answered by the document that it denotes, or by a diagnostic of reading. -/
def IsAnswered (text : List Char) : Prop :=
  (Exists fun document => read text = .ok document) ∨
    Exists fun diagnostic => read text = .error (.diagnosed diagnostic) ∧ diagnostic.cause.IsOfReading

theorem not_isAnswered_of_tooManyDigits {text : List Char}
    (stopped : read text = .error .tooManyDigits) : ¬ IsAnswered text := by
  rintro (⟨document, result⟩ | ⟨diagnostic, failed, _⟩)
  · cases stopped.symm.trans result
  · cases stopped.symm.trans failed

/-- Every text is answered by a document or by a diagnostic, except the ones whose first
wrong line overruns.  These stop the reader. -/
theorem isAnswered_iff (text : List Char) :
    (IsAnswered text ↔ ¬ Overruns (Text.numberedLines text)) ∧
      (read text = .error .tooManyDigits ↔ Overruns (Text.numberedLines text)) := by
  have stopped : read text = .error .tooManyDigits ↔ Overruns (Text.numberedLines text) := by
    constructor
    · intro failed
      rcases fault_of_readLines failed with impossible | ⟨_, overruns⟩
      · exact impossible.elim
      · exact overruns
    · exact readLines_of_overruns
  refine ⟨⟨fun answered overruns => ?_, fun inOrder => ?_⟩, stopped⟩
  · exact not_isAnswered_of_tooManyDigits (stopped.mpr overruns) answered
  · cases result : read text with
    | ok document => exact .inl ⟨document, result⟩
    | error fault =>
        rcases fault_of_readLines result with diagnosis | ⟨_, overruns⟩
        · cases fault <;> first | exact diagnosis.elim | exact .inr ⟨_, result, diagnosis⟩
        · exact absurd overruns inOrder

/-! ## A grid that is too wide to be read -/

/-- A grid of one row whose width is written with the given number of sevens. -/
def wideGrid (digits : Nat) : List Char :=
  ['g', 'r', 'i', 'd', ' '] ++ List.replicate digits '7' ++ [',', '1']

theorem numberedLines_wideGrid (digits : Nat) :
    Text.numberedLines (wideGrid digits) = [(1, wideGrid digits)] := by
  have solid : forall c, c ∈ wideGrid digits -> Text.endsLine c = false := by
    simp only [wideGrid, List.forall_mem_append, List.forall_mem_cons]
    refine ⟨⟨⟨rfl, rfl, rfl, rfl, rfl, List.forall_mem_nil _⟩, fun c member => ?_⟩,
      rfl, rfl, List.forall_mem_nil _⟩
    rw [List.eq_of_mem_replicate member]
    rfl
  unfold Text.numberedLines
  rw [Text.lines_of_solid solid (List.cons_ne_nil _ _)]
  rfl

theorem scan_wideGrid (line : Int) (digits : Nat) :
    Token.scan line (wideGrid (digits + 1)) = .ok [⟨.word, "grid".toList, line, 1⟩,
      ⟨.number, List.replicate (digits + 1) '7', line, 6⟩, ⟨.comma, [','], line, 7 + digits⟩,
      ⟨.number, ['1'], line, 8 + digits⟩] := by
  have width : Token.numberLength (List.replicate digits '7' ++ [',', '1']) = digits + 1 := by
    simp [Token.numberLength, List.takeWhile_append_of_pos, Token.fractionLength]
    omega
  have height : Token.numberLength [] = 1 := rfl
  simp [wideGrid, List.replicate_succ, Token.scan, Token.scanFrom.eq_def, Token.isBlank,
    Token.wordLength, width, height]
  omega

theorem overruns_wideGrid {digits : Nat} (tooMany : Decimal.mostDigits ≤ digits) :
    Overruns (Text.numberedLines (wideGrid (digits + 1))) := by
  rw [numberedLines_wideGrid]
  refine ⟨[], _, [], _, rfl, scan_wideGrid _ digits, .inl ⟨rfl, .inl ?_⟩⟩
  have isInteger : Token.IsInteger ⟨.number, List.replicate (digits + 1) '7', 1, 6⟩ := by
    refine ⟨rfl, fun isPoint => ?_⟩
    cases List.eq_of_mem_replicate isPoint
  refine ⟨[_], _, _, rfl, fun fits => ?_, [.word "grid"], .cons ⟨rfl, rfl⟩ .nil, [.comma, .whole 1],
    ⟨Decimal.value (List.replicate (digits + 1) '7'), 1⟩, Grammar.spells_grid_iff.mpr rfl⟩
  have few := fits isInteger
  rw [List.length_replicate] at few
  omega

theorem not_isAnswered_wideGrid : ¬ IsAnswered (wideGrid 4301) :=
  not_isAnswered_of_tooManyDigits (readLines_of_overruns (overruns_wideGrid (Nat.le_refl 4300)))

end Document
end BattleMap
