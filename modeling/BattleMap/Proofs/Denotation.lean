import BattleMap.Proofs.Outcome
import BattleMap.Proofs.Spelling

namespace BattleMap

/-!
# Which texts are maps

A text is a map if all its lines can be cut into tokens, the first line that has
any declares a grid with cells, and each later line that has any is a statement.
It denotes one document: the grid and the statements that its lines spell, in
their order, each at the number of its line and the column of its first token.

The reader looks at one line after the other and stops at the first that is
wrong.  Here all lines are cut into tokens before any of them is understood; a
wrong line makes either fail, although not always with the same diagnostic.
-/

/-! ## Tokens in their line -/

namespace Token

/-- A token is written in the given part of a line, which starts at the given
column, and its position says where. -/
def StandsIn (token : Token) (line : Int) (column : Nat) (text : List Char) : Prop :=
  token.line = line ∧ column ≤ token.column ∧
    token.text = (text.drop (token.column - column)).take token.text.length

theorem StandsIn.behind {token : Token} {line : Int} {column length : Nat} {text : List Char}
    (stands : token.StandsIn line (column + length) (text.drop length)) :
    token.StandsIn line column text := by
  rcases stands with ⟨sameLine, follows, written⟩
  refine ⟨sameLine, by omega, ?_⟩
  rw [List.drop_drop] at written
  rwa [show length + (token.column - (column + length)) = token.column - column by omega] at written

/-- A token at the front of a text, and tokens behind it. -/
theorem standsIn_front {line : Int} {column length : Nat} {c : Char} {rest : List Char}
    (kind : TokenKind) {others : List Token} (positive : 0 < length)
    (behind : forall token, token ∈ others ->
      token.StandsIn line (column + length) (rest.drop (length - 1))) :
    forall token, token ∈ ⟨kind, (c :: rest).take length, line, column⟩ :: others ->
      token.StandsIn line column (c :: rest) := by
  intro token member
  rcases List.mem_cons.mp member with rfl | member
  · refine ⟨rfl, Nat.le_refl _, ?_⟩
    dsimp only
    rw [Nat.sub_self, List.drop_zero, List.length_take, ← List.take_eq_take_min]
  · have stands := behind token member
    rw [show rest.drop (length - 1) = (c :: rest).drop length by
      rw [← List.drop_succ_cons, Nat.sub_add_cancel positive]] at stands
    exact stands.behind

/-- Every token of a line has the number of the line and stands at its column. -/
theorem standsIn_of_mem_scanFrom {line : Int} {column : Nat} {text : List Char}
    {tokens : List Token} (scanned : scanFrom line column text = .ok tokens) :
    forall token, token ∈ tokens -> token.StandsIn line column text := by
  induction column, text using scanFrom.induct generalizing tokens with
  | case1 column =>
      unfold scanFrom at scanned
      cases scanned
      exact fun _ member => nomatch member
  | case2 column c rest blank later =>
      unfold scanFrom at scanned
      rw [if_pos blank] at scanned
      exact fun token member => (later scanned token member).behind
  | case3 column rest solid =>
      unfold scanFrom at scanned
      rw [if_neg solid, if_pos rfl] at scanned
      cases scanned
      exact fun _ member => nomatch member
  | case4 column rest solid noComment later =>
      unfold scanFrom at scanned
      rw [if_neg solid, if_neg noComment, if_pos rfl] at scanned
      rcases Outcome.bind_eq_ok.mp scanned with ⟨others, behind, same⟩
      cases same
      exact standsIn_front .comma Nat.one_pos (later behind)
  | case5 column c rest solid noComment noComma letter length =>
      rename_i later
      unfold scanFrom at scanned
      rw [if_neg solid, if_neg noComment, if_neg noComma, if_pos letter] at scanned
      rcases Outcome.bind_eq_ok.mp scanned with ⟨others, behind, same⟩
      cases same
      exact standsIn_front .word (Nat.lt_add_right _ Nat.one_pos) (later behind)
  | case6 column c rest solid noComment noComma noLetter digit length =>
      rename_i later
      unfold scanFrom at scanned
      rw [if_neg solid, if_neg noComment, if_neg noComma, if_neg noLetter, if_pos digit] at scanned
      rcases Outcome.bind_eq_ok.mp scanned with ⟨others, behind, same⟩
      cases same
      exact standsIn_front .number (Nat.lt_add_right _ (Nat.lt_add_right _ Nat.one_pos)) (later behind)
  | case7 column c rest solid noComment noComma noLetter noDigit =>
      unfold scanFrom at scanned
      rw [if_neg solid, if_neg noComment, if_neg noComma, if_neg noLetter, if_neg noDigit] at scanned
      cases scanned

theorem standsIn_of_mem_scan {line : Int} {text : List Char} {tokens : List Token}
    (scanned : scan line text = .ok tokens) {token : Token} (member : token ∈ tokens) :
    token.StandsIn line 1 text :=
  standsIn_of_mem_scanFrom scanned token member

end Token

/-! ## The document of some lines -/

namespace Document

/-- The tokens of a line, with its number. -/
abbrev TokenLine := Nat × List Token

/-- A line cut into tokens. -/
def cutLine (line : Line) : Except Fault TokenLine :=
  (Token.scan line.1 line.2).map fun tokens => (line.1, tokens)

/-- All lines cut into tokens, without the lines that have none. -/
def tokenLines (lines : List Line) : Except Fault (List TokenLine) :=
  (lines.mapM cutLine).map fun cut => cut.filter fun line => !line.2.isEmpty

/-- No integer among the tokens of some lines has more digits than can be read. -/
def Fit (lines : List Line) : Prop :=
  forall line, line ∈ lines -> forall tokens, Token.scan line.1 line.2 = .ok tokens ->
    forall token, token ∈ tokens -> token.Fits

end Document

/-- Something has the given spelling and stands in a line: its tokens write the
spelling, and the position is the one of the first of them. -/
def Placed.Spelled {α : Type} (placed : Placed α) (spelling : List Part)
    (line : Document.TokenLine) : Prop :=
  line.2.Forall₂ Token.Writes spelling ∧ placed.line = some (line.1 : Int) ∧
    placed.column = line.2.head?.map fun head => (head.column : Int)

/-- A line is the given statement. -/
def Document.TokenLine.Is (line : Document.TokenLine) (statement : Placed Statement) : Prop :=
  Exists fun spelling => statement.item.spelling? = some spelling ∧ statement.Spelled spelling line

namespace Document

/-- The document consists of what the lines say: a grid with cells, and then one
statement in each line. -/
def WrittenIn (document : Document) (lines : List TokenLine) : Prop :=
  Exists fun first => Exists fun later => lines = first :: later ∧
    document.grid.Spelled document.grid.item.spelling first ∧
    (0 < document.grid.item.width ∧ 0 < document.grid.item.height) ∧
    later.Forall₂ TokenLine.Is document.statements

theorem Fit.of_cons {line : Line} {rest : List Line} (fit : Fit (line :: rest)) : Fit rest :=
  fun other member => fit other (List.mem_cons_of_mem _ member)

theorem tokenLines_cons_of_error {line : Line} {rest : List Line} {fault : Fault}
    (scanned : Token.scan line.1 line.2 = .error fault) :
    tokenLines (line :: rest) = .error fault := by
  have front : cutLine line = .error fault := congrArg (Except.map _) scanned
  unfold tokenLines
  rw [List.mapM_cons, front]
  rfl

theorem tokenLines_cons {line : Line} {rest : List Line} {tokens : List Token}
    (scanned : Token.scan line.1 line.2 = .ok tokens) :
    tokenLines (line :: rest) = (tokenLines rest).map fun later =>
      if tokens.isEmpty then later else (line.1, tokens) :: later := by
  have front : cutLine line = .ok (line.1, tokens) := congrArg (Except.map _) scanned
  unfold tokenLines
  rw [List.mapM_cons, front]
  cases rest.mapM cutLine <;> cases tokens <;> rfl

theorem tokenLines_cons_of_blank {line : Line} {rest : List Line}
    (scanned : Token.scan line.1 line.2 = .ok []) : tokenLines (line :: rest) = tokenLines rest := by
  rw [tokenLines_cons scanned]
  cases tokenLines rest <;> rfl

section FirstLine

variable {line : Line} {rest : List Line}

theorem readStatements_cons_of_error {fault : Fault}
    (scanned : Token.scan line.1 line.2 = .error fault) :
    readStatements (line :: rest) = .error fault := by
  rw [readStatements, scanned]
  rfl

theorem readLines_cons_of_error {fault : Fault}
    (scanned : Token.scan line.1 line.2 = .error fault) :
    readLines (line :: rest) = .error fault := by
  rw [readLines, scanned]
  rfl

theorem readStatements_cons_of_blank (scanned : Token.scan line.1 line.2 = .ok []) :
    readStatements (line :: rest) = readStatements rest := by
  rw [readStatements, scanned]
  rfl

theorem readLines_cons_of_blank (scanned : Token.scan line.1 line.2 = .ok []) :
    readLines (line :: rest) = readLines rest := by
  rw [readLines, scanned]
  rfl

variable {head : Token} {others : List Token}

theorem readStatements_cons_of_grid (scanned : Token.scan line.1 line.2 = .ok (head :: others))
    (isGrid : head.isWord "grid" = true) :
    readStatements (line :: rest) =
      .error (.diagnosed ⟨.duplicateGrid, some head.line, some head.column⟩) := by
  rw [readStatements, scanned]
  exact if_pos isGrid

theorem readStatements_cons (scanned : Token.scan line.1 line.2 = .ok (head :: others))
    (noGrid : head.isWord "grid" = false) :
    readStatements (line :: rest) =
      Grammar.statement.read (.atStart line.1 (head :: others)) >>= fun statement =>
        readStatements rest >>= fun later => .ok (placedAt statement head :: later) := by
  rw [readStatements, scanned]
  exact if_neg (Bool.eq_false_iff.mp noGrid)

theorem readLines_cons_of_grid (scanned : Token.scan line.1 line.2 = .ok (head :: others))
    (isGrid : head.isWord "grid" = true) :
    readLines (line :: rest) =
      readGrid line.1 head others >>= fun grid =>
        readStatements rest >>= fun statements => .ok ⟨grid, statements⟩ := by
  rw [readLines, scanned]
  exact if_pos isGrid

theorem readLines_cons_of_statement (scanned : Token.scan line.1 line.2 = .ok (head :: others))
    (noGrid : head.isWord "grid" = false) :
    readLines (line :: rest) =
      Grammar.statement.read (.atStart line.1 (head :: others)) >>= fun _ =>
        .error (.diagnosed ⟨.missingGrid, some head.line, some head.column⟩) := by
  rw [readLines, scanned]
  exact if_neg (Bool.eq_false_iff.mp noGrid)

end FirstLine

section Head

variable {α : Type} {line : Line} {head : Token} {others : List Token}

theorem spelled_placedAt (scanned : Token.scan line.1 line.2 = .ok (head :: others)) {item : α}
    {spelling : List Part} :
    (placedAt item head).Spelled spelling (line.1, head :: others) ↔
      (head :: others).Forall₂ Token.Writes spelling := by
  have stands := Token.standsIn_of_mem_scan scanned List.mem_cons_self
  constructor
  · exact fun spelled => spelled.1
  · exact fun written => ⟨written, congrArg some stands.1, rfl⟩

theorem eq_placedAt_of_spelled (scanned : Token.scan line.1 line.2 = .ok (head :: others))
    {placed : Placed α} {spelling : List Part}
    (spelled : placed.Spelled spelling (line.1, head :: others)) :
    placed = placedAt placed.item head := by
  have stands := Token.standsIn_of_mem_scan scanned List.mem_cons_self
  rcases placed with ⟨item, _, _⟩
  rcases spelled with ⟨_, rfl, rfl⟩
  unfold placedAt
  rw [stands.1]
  rfl

theorem line_is_iff (scanned : Token.scan line.1 line.2 = .ok (head :: others))
    (fits : forall token, token ∈ head :: others -> token.Fits) {placed : Placed Statement} :
    TokenLine.Is (line.1, head :: others) placed ↔
      head.isWord "grid" = false ∧ Exists fun statement =>
        Grammar.statement.read (.atStart line.1 (head :: others)) = .ok statement ∧
          placed = placedAt statement head := by
  simp only [Grammar.read_statement_iff (.atStart line.1 (head :: others)) fits]
  constructor
  · rintro ⟨spelling, spelled, stands⟩
    exact ⟨Grammar.head_spelling?_ne_grid spelled stands.1, placed.item,
      ⟨spelling, spelled, stands.1⟩, eq_placedAt_of_spelled scanned stands⟩
  · rintro ⟨_, statement, ⟨spelling, spelled, written⟩, rfl⟩
    exact ⟨spelling, spelled, (spelled_placedAt scanned).mpr written⟩

theorem tokenLines_cons_eq_ok {rest : List Line}
    (scanned : Token.scan line.1 line.2 = .ok (head :: others)) {lines : List TokenLine} :
    tokenLines (line :: rest) = .ok lines ↔ Exists fun later => tokenLines rest = .ok later ∧
      lines = (line.1, head :: others) :: later := by
  rw [tokenLines_cons scanned]
  constructor
  · intro cut
    cases behind : tokenLines rest with
    | error fault =>
        rw [behind] at cut
        cases cut
    | ok later =>
        rw [behind] at cut
        exact ⟨later, rfl, (Except.ok.inj cut).symm⟩
  · rintro ⟨later, behind, rfl⟩
    rw [behind]
    rfl

theorem readStatements_cons_eq_ok {rest : List Line}
    (scanned : Token.scan line.1 line.2 = .ok (head :: others))
    {statements : List (Placed Statement)} :
    readStatements (line :: rest) = .ok statements ↔
      head.isWord "grid" = false ∧ Exists fun statement =>
        Grammar.statement.read (.atStart line.1 (head :: others)) = .ok statement ∧
          Exists fun later => readStatements rest = .ok later ∧
            statements = placedAt statement head :: later := by
  cases isGrid : head.isWord "grid" with
  | true =>
      rw [readStatements_cons_of_grid scanned isGrid]
      constructor
      · intro impossible
        cases impossible
      · rintro ⟨impossible, _⟩
        cases impossible
  | false =>
      rw [readStatements_cons scanned isGrid]
      constructor
      · intro result
        rcases Outcome.bind_eq_ok.mp result with ⟨statement, first, result⟩
        rcases Outcome.bind_eq_ok.mp result with ⟨later, behind, same⟩
        exact ⟨rfl, statement, first, later, behind, (Except.ok.inj same).symm⟩
      · rintro ⟨_, statement, first, later, behind, rfl⟩
        exact Outcome.bind_eq_ok.mpr ⟨statement, first, Outcome.bind_eq_ok.mpr ⟨later, behind, rfl⟩⟩

end Head

/-- The statements that are read are the ones that the lines with tokens are. -/
theorem readStatements_iff {lines : List Line} (fit : Fit lines)
    {statements : List (Placed Statement)} :
    readStatements lines = .ok statements ↔
      Exists fun later => tokenLines lines = .ok later ∧ later.Forall₂ TokenLine.Is statements := by
  induction lines generalizing statements with
  | nil =>
      constructor
      · intro result
        cases result
        exact ⟨[], rfl, .nil⟩
      · rintro ⟨later, cut, are⟩
        cases cut
        cases are
        rfl
  | cons line rest behind =>
      cases scanned : Token.scan line.1 line.2 with
      | error fault =>
          rw [readStatements_cons_of_error scanned, tokenLines_cons_of_error scanned]
          exact Outcome.error_eq_ok_iff
      | ok tokens =>
          cases tokens with
          | nil =>
              rw [readStatements_cons_of_blank scanned, tokenLines_cons_of_blank scanned]
              exact behind fit.of_cons
          | cons head others =>
              have fits := fit line List.mem_cons_self _ scanned
              rw [readStatements_cons_eq_ok scanned]
              simp only [tokenLines_cons_eq_ok scanned, behind fit.of_cons]
              constructor
              · rintro ⟨noGrid, statement, first, statements, ⟨later, cut, are⟩, rfl⟩
                exact ⟨_, ⟨later, cut, rfl⟩,
                  .cons ((line_is_iff scanned fits).mpr ⟨noGrid, statement, first, rfl⟩) are⟩
              · rintro ⟨_, ⟨later, cut, rfl⟩, _ | ⟨is, are⟩⟩
                rcases (line_is_iff scanned fits).mp is with ⟨noGrid, statement, first, rfl⟩
                exact ⟨noGrid, statement, first, _, ⟨later, cut, are⟩, rfl⟩

/-- A grid declaration is read where its spelling stands, if the grid has cells. -/
theorem readGrid_iff {line : Line} {head : Token} {others : List Token}
    (scanned : Token.scan line.1 line.2 = .ok (head :: others))
    (fits : forall token, token ∈ head :: others -> token.Fits) {grid : Placed GridSize} :
    readGrid line.1 head others = .ok grid ↔
      grid.Spelled grid.item.spelling (line.1, head :: others) ∧
        0 < grid.item.width ∧ 0 < grid.item.height := by
  unfold readGrid
  rw [Outcome.bind_eq_ok]
  simp only [Grammar.read_grid_iff (.atStart line.1 (head :: others)) fits]
  constructor
  · rintro ⟨size, written, checked⟩
    split at checked
    · cases checked
      exact ⟨(spelled_placedAt scanned).mpr written, GridSize.isPositive_iff.mp ‹_›⟩
    · exact absurd checked Outcome.bind_error_ne_ok
  · rintro ⟨stands, positive⟩
    refine ⟨grid.item, stands.1, ?_⟩
    rw [if_pos (GridSize.isPositive_iff.mpr positive)]
    exact congrArg Except.ok (eq_placedAt_of_spelled scanned stands).symm

theorem isWord_grid_of_spelled {size : GridSize} {head : Token} {others : List Token}
    (written : (head :: others).Forall₂ Token.Writes size.spelling) : head.isWord "grid" = true := by
  rcases written with _ | ⟨isGrid, _⟩
  exact Token.isWord_iff.mpr isGrid

theorem readLines_iff {lines : List Line} (fit : Fit lines) {document : Document} :
    readLines lines = .ok document ↔
      Exists fun cut => tokenLines lines = .ok cut ∧ document.WrittenIn cut := by
  induction lines with
  | nil =>
      constructor
      · intro impossible
        cases impossible
      · rintro ⟨_, cut, first, later, same, _⟩
        cases cut
        cases same
  | cons line rest behind =>
      cases scanned : Token.scan line.1 line.2 with
      | error fault =>
          rw [readLines_cons_of_error scanned, tokenLines_cons_of_error scanned]
          exact Outcome.error_eq_ok_iff
      | ok tokens =>
          cases tokens with
          | nil =>
              rw [readLines_cons_of_blank scanned, tokenLines_cons_of_blank scanned]
              exact behind fit.of_cons
          | cons head others =>
              have fits := fit line List.mem_cons_self _ scanned
              simp only [tokenLines_cons_eq_ok scanned]
              cases isGrid : head.isWord "grid" with
              | true =>
                  rw [readLines_cons_of_grid scanned isGrid]
                  constructor
                  · intro result
                    rcases Outcome.bind_eq_ok.mp result with ⟨grid, first, result⟩
                    rcases Outcome.bind_eq_ok.mp result with ⟨statements, after, same⟩
                    cases same
                    rcases (readGrid_iff scanned fits).mp first with ⟨stands, positive⟩
                    rcases (readStatements_iff fit.of_cons).mp after with ⟨later, cut, are⟩
                    exact ⟨_, ⟨later, cut, rfl⟩, _, later, rfl, stands, positive, are⟩
                  · rintro ⟨_, ⟨later, cut, rfl⟩, _, _, same, stands, positive, are⟩
                    cases same
                    exact Outcome.bind_eq_ok.mpr ⟨document.grid,
                      (readGrid_iff scanned fits).mpr ⟨stands, positive⟩,
                      Outcome.bind_eq_ok.mpr ⟨document.statements,
                        (readStatements_iff fit.of_cons).mpr ⟨later, cut, are⟩, rfl⟩⟩
              | false =>
                  rw [readLines_cons_of_statement scanned isGrid]
                  constructor
                  · exact fun impossible => absurd impossible Outcome.bind_error_ne_ok
                  · rintro ⟨_, ⟨later, cut, rfl⟩, _, _, same, stands, _⟩
                    cases same
                    cases isGrid.symm.trans (isWord_grid_of_spelled stands.1)

/-- A text whose integers can be read denotes a document exactly if its lines can
be cut into tokens and the document consists of what they say. -/
theorem read_iff_writtenIn {text : List Char} (fit : Fit (Text.numberedLines text))
    {document : Document} :
    read text = .ok document ↔
      Exists fun lines => tokenLines (Text.numberedLines text) = .ok lines ∧
        document.WrittenIn lines :=
  readLines_iff fit

/-- Short lines have short integers. -/
theorem fit_of_forall_length_le {lines : List Line}
    (short : forall line, line ∈ lines -> line.2.length ≤ Decimal.mostDigits) : Fit lines := by
  intro line listed tokens scanned token member _
  have written := (Token.standsIn_of_mem_scan scanned member).2.2
  have bound : token.text.length ≤ line.2.length := by
    rw [written, List.length_take, List.length_drop]
    omega
  exact Nat.le_trans bound (short line listed)

/-! ## A map with comments, blank lines and several line ends -/

def annotatedRoom : List Char :=
  "# a room with a door\n\n".toList ++ "grid 3,2\r\n".toList ++
    "  rect at 0,0 width 2 height 1\t# the room\n".toList ++
    "xor rect at 1,00 width 1 height 1\n".toList ++
    "line along top from 0,0 length 2\n\t\r".toList ++ "entity circle within 2,1\n".toList ++
    "entity square within 0,1".toList

def annotatedDocument : Document where
  grid := ⟨⟨3, 2⟩, some 3, some 1⟩
  statements :=
    [⟨.stamp ⟨.fill, ⟨0, 0, 2, 1⟩⟩, some 4, some 3⟩, ⟨.stamp ⟨.turn, ⟨1, 0, 1, 1⟩⟩, some 5, some 1⟩,
      ⟨.line ⟨.top, 0, 0, 2⟩, some 6, some 1⟩, ⟨.circle (.within 2 1), some 8, some 1⟩,
      ⟨.square ⟨0, 1⟩, some 9, some 1⟩]

theorem writtenIn_annotatedRoom :
    Fit (Text.numberedLines annotatedRoom) ∧
      Exists fun lines => tokenLines (Text.numberedLines annotatedRoom) = .ok lines ∧
        annotatedDocument.WrittenIn lines := by
  have fit : Fit (Text.numberedLines annotatedRoom) := fit_of_forall_length_le (by decide +kernel)
  have result : read annotatedRoom = .ok annotatedDocument := by decide +kernel
  exact ⟨fit, (read_iff_writtenIn fit).mp result⟩

end Document
end BattleMap
