import BattleMap.Proofs.Refusal
import BattleMap.Proofs.Viability

namespace BattleMap

/-!
# The first wrong line decides

The reader takes one line after the other and looks at no line before it needs it.  So
a diagnostic that points at a line depends on the lines up to this one only: every text
that starts with the same lines is answered by the same diagnostic.  A map that goes on
with further lines is still the same map at its start.

What can be wrong with a line is listed by `IsWrong`.  Every failure of the reader is
traced to one wrong line, together with the proof that the lines behind it do not matter.
-/

theorem Token.line_of_mem_scan {line : Int} {text : List Char} {tokens : List Token}
    (scanned : scan line text = .ok tokens) : forall token, token ∈ tokens -> token.line = line :=
  fun _ member => (standsIn_of_mem_scan scanned member).1

namespace Form

/-- A diagnostic of the reader of forms points at the line that is read. -/
theorem line_of_read {α : Type} {form : Form α} (clear : form.IsClear) (writable : form.IsWritable)
    {line : Int} {tokens : List Token} (here : forall token, token ∈ tokens -> token.line = line)
    {diagnostic : Diagnostic}
    (failed : form.read (.atStart line tokens) = .error (.diagnosed diagnostic)) :
    diagnostic.line = some line := by
  rcases stops_of_read clear writable failed with impossible |
    ⟨front, behind, expected, rfl, same, _⟩
  · cases impossible
  · cases behind with
    | nil => cases same; rfl
    | cons token others =>
        cases same
        exact congrArg some (here token List.mem_append_cons_self)

end Form

namespace Document

/-- What can be wrong with a line, and the fault that answers it: a character that
belongs to nothing, a grid declaration that cannot be read, a second one, a statement
that cannot be read, or one before the grid. -/
inductive IsWrong (line : Line) : Fault -> Prop where
  | stray {fault : Fault} (failed : Token.scan line.1 line.2 = .error fault) : IsWrong line fault
  | grid {head : Token} {others : List Token} {fault : Fault}
      (scanned : Token.scan line.1 line.2 = .ok (head :: others))
      (isGrid : head.isWord "grid" = true)
      (failed : readGrid line.1 head others = .error fault) : IsWrong line fault
  | again {head : Token} {others : List Token}
      (scanned : Token.scan line.1 line.2 = .ok (head :: others))
      (isGrid : head.isWord "grid" = true) :
      IsWrong line (.diagnosed ⟨.duplicateGrid, some head.line, some head.column⟩)
  | statement {head : Token} {others : List Token} {fault : Fault}
      (scanned : Token.scan line.1 line.2 = .ok (head :: others))
      (noGrid : head.isWord "grid" = false)
      (failed : Grammar.statement.read (.atStart line.1 (head :: others)) = .error fault) :
      IsWrong line fault
  | early {head : Token} {others : List Token}
      (scanned : Token.scan line.1 line.2 = .ok (head :: others))
      (noGrid : head.isWord "grid" = false) :
      IsWrong line (.diagnosed ⟨.missingGrid, some head.line, some head.column⟩)

/-- The diagnostic of a wrong line points at it. -/
theorem IsWrong.line_eq {line : Line} {diagnostic : Diagnostic}
    (wrong : IsWrong line (.diagnosed diagnostic)) : diagnostic.line = some (line.1 : Int) := by
  cases wrong with
  | stray failed =>
      rcases Token.exists_stray_of_scanFrom failed with ⟨_, _, _, _, same, _⟩
      cases same
      rfl
  | grid scanned isGrid failed =>
      have here := Token.line_of_mem_scan scanned
      rcases Outcome.bind_eq_error.mp failed with failed | ⟨size, declared, failed⟩
      · exact Form.line_of_read Grammar.isClear_grid Grammar.isWritable_grid here failed
      · split at failed
        · cases failed
        · rcases Grammar.exists_rejectEmpty_of_read_grid scanned declared _ _ with ⟨name, rejected⟩
          cases rejected.symm.trans failed
          exact congrArg some (here _ List.mem_cons_self)
  | again scanned isGrid =>
      exact congrArg some (Token.line_of_mem_scan scanned _ List.mem_cons_self)
  | statement scanned noGrid failed =>
      have here := Token.line_of_mem_scan scanned
      exact Form.line_of_read Grammar.isClear_statement Grammar.isWritable_statement here failed
  | early scanned noGrid =>
      exact congrArg some (Token.line_of_mem_scan scanned _ List.mem_cons_self)

/-- Lines whose reading fails have a wrong line, and the fault is the same whatever stands
behind it. -/
def FailsAtOnce {α : Type} (reader : List Line -> Except Fault α) (lines : List Line)
    (fault : Fault) : Prop :=
  Exists fun before => Exists fun line => Exists fun behind => lines = before ++ line :: behind ∧
    IsWrong line fault ∧ forall others, reader (before ++ line :: others) = .error fault

section Reader

variable {α β : Type} {reader : List Line -> Except Fault α} {line : Line} {rest : List Line}
  {fault : Fault}

theorem FailsAtOnce.here (wrong : IsWrong line fault)
    (fails : forall others, reader (line :: others) = .error fault) :
    FailsAtOnce reader (line :: rest) fault :=
  ⟨[], line, rest, rfl, wrong, fails⟩

/-- A line before a wrong one is passed over. -/
theorem FailsAtOnce.cons {later : List Line -> Except Fault β}
    (failsAtOnce : FailsAtOnce later rest fault) (passes : forall others,
      later others = .error fault -> reader (line :: others) = .error fault) :
    FailsAtOnce reader (line :: rest) fault := by
  rcases failsAtOnce with ⟨before, bad, behind, rfl, wrong, fails⟩
  exact ⟨line :: before, bad, behind, rfl, wrong, fun others => passes _ (fails others)⟩

end Reader

theorem failsAtOnce_of_readStatements {lines : List Line} {fault : Fault}
    (failed : readStatements lines = .error fault) : FailsAtOnce readStatements lines fault := by
  induction lines with
  | nil => cases failed
  | cons line rest later =>
      cases scanned : Token.scan line.1 line.2 with
      | error other =>
          rw [readStatements_cons_of_error scanned] at failed
          cases failed
          exact .here (.stray scanned) fun others => readStatements_cons_of_error scanned
      | ok tokens =>
          cases tokens with
          | nil =>
              rw [readStatements_cons_of_blank scanned] at failed
              exact (later failed).cons fun others => (readStatements_cons_of_blank scanned).trans
          | cons head others =>
              cases isGrid : head.isWord "grid" with
              | true =>
                  rw [readStatements_cons_of_grid scanned isGrid] at failed
                  cases failed
                  exact .here (.again scanned isGrid) fun others =>
                    readStatements_cons_of_grid scanned isGrid
              | false =>
                  rw [readStatements_cons scanned isGrid] at failed
                  rcases Outcome.bind_eq_error.mp failed with failed | ⟨statement, first, failed⟩
                  · refine .here (.statement scanned isGrid failed) fun others => ?_
                    rw [readStatements_cons scanned isGrid, failed]
                    rfl
                  rcases Outcome.bind_eq_error.mp failed with failed | ⟨_, _, impossible⟩
                  · refine (later failed).cons fun others fails => ?_
                    rw [readStatements_cons scanned isGrid, first, fails]
                    rfl
                  · cases impossible

/-- A text that is no map has a wrong line, or it has no line with tokens at all. -/
theorem failsAtOnce_of_readLines {lines : List Line} {fault : Fault}
    (failed : readLines lines = .error fault) :
    fault = .diagnosed ⟨.missingGrid, none, none⟩ ∨ FailsAtOnce readLines lines fault := by
  induction lines with
  | nil =>
      cases failed
      exact .inl rfl
  | cons line rest later =>
      cases scanned : Token.scan line.1 line.2 with
      | error other =>
          rw [readLines_cons_of_error scanned] at failed
          cases failed
          exact .inr (.here (.stray scanned) fun others => readLines_cons_of_error scanned)
      | ok tokens =>
          cases tokens with
          | nil =>
              rw [readLines_cons_of_blank scanned] at failed
              exact (later failed).imp_right fun fails =>
                fails.cons fun others => (readLines_cons_of_blank scanned).trans
          | cons head others =>
              refine .inr ?_
              cases isGrid : head.isWord "grid" with
              | true =>
                  rw [readLines_cons_of_grid scanned isGrid] at failed
                  rcases Outcome.bind_eq_error.mp failed with failed | ⟨grid, declared, failed⟩
                  · refine .here (.grid scanned isGrid failed) fun others => ?_
                    rw [readLines_cons_of_grid scanned isGrid, failed]
                    rfl
                  rcases Outcome.bind_eq_error.mp failed with failed | ⟨_, _, impossible⟩
                  · refine (failsAtOnce_of_readStatements failed).cons fun others fails => ?_
                    rw [readLines_cons_of_grid scanned isGrid, declared, fails]
                    rfl
                  · cases impossible
              | false =>
                  rw [readLines_cons_of_statement scanned isGrid] at failed
                  rcases Outcome.bind_eq_error.mp failed with failed | ⟨statement, first, failed⟩
                  · refine .here (.statement scanned isGrid failed) fun others => ?_
                    rw [readLines_cons_of_statement scanned isGrid, failed]
                    rfl
                  · cases failed
                    refine .here (.early scanned isGrid) fun others => ?_
                    rw [readLines_cons_of_statement scanned isGrid, first]
                    rfl

end Document

/-! ## Texts that start with the same lines -/

namespace Text

theorem numberedLines_of_append {text extended : List Char} {more : List (List Char)}
    (same : lines extended = lines text ++ more) :
    Exists fun behind => numberedLines extended = numberedLines text ++ behind := by
  unfold numberedLines
  rw [same, List.zipIdx_append, List.map_append]
  exact ⟨_, rfl⟩

theorem getElem?_numberedLines (text : List Char) (i : Nat) :
    (numberedLines text)[i]? = (lines text)[i]?.map fun row => (i + 1, row) := by
  unfold numberedLines
  rw [List.getElem?_map, List.getElem?_zipIdx]
  cases (lines text)[i]? <;> simp

theorem take_numberedLines_eq {text other : List Char} {n : Nat}
    (same : (lines other).take n = (lines text).take n) :
    (numberedLines other).take n = (numberedLines text).take n := by
  refine List.ext_getElem? fun i => ?_
  have entry := congrArg (fun rows : List (List Char) => rows[i]?) same
  simp only [List.getElem?_take, getElem?_numberedLines] at entry ⊢
  by_cases inside : i < n
  · simp only [if_pos inside] at entry ⊢
    rw [entry]
  · simp only [if_neg inside]

/-- A line stands at the place that its number says. -/
theorem number_of_numberedLines {text : List Char} {before behind : List (Nat × List Char)}
    {line : Nat × List Char} (split : numberedLines text = before ++ line :: behind) :
    line.1 = before.length + 1 := by
  have entry := getElem?_numberedLines text before.length
  rw [split, List.getElem?_append_right (Nat.le_refl _), Nat.sub_self,
    List.getElem?_cons_zero] at entry
  rcases Option.map_eq_some_iff.mp entry.symm with ⟨row, _, rfl⟩
  rfl

/-- Texts that agree up to a line have this line at the same place. -/
theorem exists_numberedLines_eq {text other : List Char} {before behind : List (Nat × List Char)}
    {line : Nat × List Char} (split : numberedLines text = before ++ line :: behind)
    (same : (lines other).take line.1 = (lines text).take line.1) :
    Exists fun others => numberedLines other = before ++ line :: others := by
  have agree := take_numberedLines_eq same
  rw [split, List.append_cons, number_of_numberedLines split,
    List.take_left' (by rw [List.length_append]; rfl)] at agree
  refine ⟨(numberedLines other).drop (before.length + 1), ?_⟩
  rw [List.append_cons, ← agree, List.take_append_drop]

end Text

namespace Document

/-- A diagnostic that points at a line is the same for all texts that agree up to this
line, and a map whose lines go on with further ones keeps its grid and its statements. -/
theorem read_determined (text other : List Char) :
    (forall diagnostic : Diagnostic, forall number : Int,
      read text = .error (.diagnosed diagnostic) -> diagnostic.line = some number ->
        (Text.lines other).take number.toNat = (Text.lines text).take number.toNat ->
          read other = .error (.diagnosed diagnostic)) ∧
      forall document extended : Document, read text = .ok document -> read other = .ok extended ->
        Text.lines text <+: Text.lines other ->
          document.grid = extended.grid ∧ document.statements <+: extended.statements := by
  constructor
  · intro diagnostic number failed position same
    rcases failsAtOnce_of_readLines failed with nowhere |
      ⟨before, line, behind, split, wrong, fails⟩
    · cases nowhere
      cases position
    · cases wrong.line_eq.symm.trans position
      rcases Text.exists_numberedLines_eq split same with ⟨others, splitOther⟩
      unfold read
      rw [splitOther, fails]
  · rintro document extended result onward ⟨more, same⟩
    rcases Text.numberedLines_of_append same.symm with ⟨behind, split⟩
    unfold read at onward
    rw [split, readLines_append result] at onward
    rcases Outcome.bind_eq_ok.mp onward with ⟨later, _, whole⟩
    cases whole
    exact ⟨rfl, List.prefix_append _ _⟩

/-- A map whose third line has no height. -/
def brokenHall : List Char :=
  "# a hall\ngrid 4,2\nrect at 0,0 width 4\nline along top from 0,0 length 4".toList

/-- The same three lines with other line ends, and other mistakes behind them. -/
def brokenCellar : List Char :=
  "# a hall\r\ngrid 4,2\r\nrect at 0,0 width 4\r\ngrid 9,9\r\n$".toList

def missingHeight : Diagnostic :=
  ⟨.unexpected "end of line" "'height'", some 3, some 20⟩

def hall : List Char :=
  "grid 4,2\nrect at 0,0 width 4 height 1".toList

def furnishedHall : List Char :=
  "grid 4,2\nrect at 0,0 width 4 height 1\n\nentity circle within 1,0\n".toList

def hallDocument : Document :=
  ⟨⟨⟨4, 2⟩, some 1, some 1⟩, [⟨.stamp ⟨.fill, ⟨0, 0, 4, 1⟩⟩, some 2, some 1⟩]⟩

def furnishedDocument : Document :=
  { hallDocument with
    statements := hallDocument.statements ++ [⟨.circle (.within 1 0), some 4, some 1⟩] }

theorem read_determined_halls :
    (read brokenHall = .error (.diagnosed missingHeight) ∧ missingHeight.line = some 3 ∧
      (Text.lines brokenCellar).take 3 = (Text.lines brokenHall).take 3 ∧
      read brokenCellar = .error (.diagnosed missingHeight)) ∧
    (read hall = .ok hallDocument ∧ read furnishedHall = .ok furnishedDocument ∧
      Text.lines hall <+: Text.lines furnishedHall ∧ hallDocument.grid = furnishedDocument.grid ∧
      hallDocument.statements <+: furnishedDocument.statements) := by
  have failed : read brokenHall = .error (.diagnosed missingHeight) := by decide +kernel
  have same : (Text.lines brokenCellar).take 3 = (Text.lines brokenHall).take 3 := by decide +kernel
  have result : read hall = .ok hallDocument := by decide +kernel
  have onward : read furnishedHall = .ok furnishedDocument := by decide +kernel
  have starts : Text.lines hall <+: Text.lines furnishedHall := by decide +kernel
  exact ⟨⟨failed, rfl, same, (read_determined _ _).1 _ 3 failed rfl same⟩,
    result, onward, starts, (read_determined _ _).2 _ _ result onward starts⟩

end Document
end BattleMap
