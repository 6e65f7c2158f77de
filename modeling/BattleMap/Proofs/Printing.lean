import BattleMap.Proofs.FirstFault

namespace BattleMap

/-!
# Statements that are printed can be read

Diagnostics name a statement by its text, and the text is a spelling of the statement in
a map.  A map that is printed, its grid first and then one statement to a line, is read
as the same grid and the same statements, each at its own line.

The two sides are written apart: the text is put together from pieces of strings, the
reader follows a form.  They meet in the spelling of a statement.  The text of a
statement is its spelling in writing, with single blanks between the parts and none
around a comma, and from this the scanner takes tokens that write the spelling again.

A circle around a point is left out: its radius is shown with six digits only.
-/

/-- A number that can be written without a sign and is not too long to be read. -/
def Decimal.IsReadable (n : Int) : Prop :=
  0 ≤ n ∧ width n.toNat ≤ mostDigits

/-- A statement whose text tells everything about it. -/
def Statement.IsPrintable : Statement -> Prop
  | .stamp ⟨_, area⟩ => Decimal.IsReadable area.x ∧ Decimal.IsReadable area.y ∧
      Decimal.IsReadable area.width ∧ Decimal.IsReadable area.height
  | .line ⟨_, x, y, length⟩ => Decimal.IsReadable x ∧ Decimal.IsReadable y ∧
      Decimal.IsReadable length
  | .circle (.within x y) | .square ⟨x, y⟩ => Decimal.IsReadable x ∧ Decimal.IsReadable y
  | .circle (.around ..) => False

instance : DecidablePred Decimal.IsReadable :=
  fun n => inferInstanceAs (Decidable (0 ≤ n ∧ Decimal.width n.toNat ≤ Decimal.mostDigits))

instance : DecidablePred Statement.IsPrintable
  | .stamp ⟨_, area⟩ => inferInstanceAs (Decidable (Decimal.IsReadable area.x ∧
      Decimal.IsReadable area.y ∧ Decimal.IsReadable area.width ∧ Decimal.IsReadable area.height))
  | .line ⟨_, x, y, length⟩ => inferInstanceAs (Decidable (Decimal.IsReadable x ∧
      Decimal.IsReadable y ∧ Decimal.IsReadable length))
  | .circle (.within x y) | .square ⟨x, y⟩ =>
      inferInstanceAs (Decidable (Decimal.IsReadable x ∧ Decimal.IsReadable y))
  | .circle (.around ..) => inferInstanceAs (Decidable False)

namespace Part

/-- The sort of token that writes a part. -/
def kind : Part -> TokenKind
  | .word _ => .word
  | .comma => .comma
  | .whole _ | .fraction _ => .number

/-- A part in writing. -/
def text : Part -> List Char
  | .word text => text.toList
  | .comma => [',']
  | .whole n => (Decimal.ofInt n).toList
  | .fraction x => (Binary64.ofFloat x).exactText.toList

/-- What stands between a part and the parts behind it: a blank, but nothing next to a comma
and nothing at the end. -/
def gap : Part -> List Part -> List Char
  | _, [] => []
  | .comma, _ => []
  | _, .comma :: _ => []
  | _, _ => [' ']

/-- A spelling in writing. -/
def written : List Part -> List Char
  | [] => []
  | part :: rest => part.text ++ gap part rest ++ written rest

/-- A part that is read as it is written. -/
def IsPrintable : Part -> Prop
  | .word text => Token.IsText .word text.toList
  | .comma => True
  | .whole n => Decimal.IsReadable n
  | .fraction _ => False

end Part

theorem Decimal.toList_ofInt {n : Int} (nonneg : 0 ≤ n) : (ofInt n).toList = digits n.toNat := by
  unfold ofInt
  rw [if_neg (Int.not_lt.mpr nonneg), show n.natAbs = n.toNat by omega]
  rfl

theorem Decimal.IsReadable.exactText_eq {n : Int} (readable : IsReadable n) :
    (Number.whole n).exactText = .ok (ofInt n) := by
  have digitsOf : n = value (digits n.toNat) := by
    rw [value_digits, Int.toNat_of_nonneg readable.1]
  have writable : isWritable (value (digits n.toNat)) = true :=
    isWritable_value (fun c member => isDigit_of_mem_digits member)
      (Nat.le_trans (Nat.le_of_eq (length_digits _)) readable.2)
  rw [← digitsOf] at writable
  exact if_pos writable

namespace Part

variable {part : Part} {token : Token}

theorem IsPrintable.isText (printable : part.IsPrintable) : Token.IsText part.kind part.text := by
  cases part with
  | word text => exact printable
  | comma => rfl
  | fraction x => exact printable.elim
  | whole n =>
      refine .inl ?_
      rw [text, Decimal.toList_ofInt printable.1]
      exact ⟨Decimal.digits_ne_nil _, fun c member => Decimal.isDigit_of_mem_digits member⟩

theorem IsPrintable.writes (printable : part.IsPrintable) (sameKind : token.kind = part.kind)
    (sameText : token.text = part.text) : token.Writes part ∧ token.Fits := by
  cases part with
  | word text =>
      refine ⟨⟨sameKind, sameText⟩, fun isInteger => ?_⟩
      cases sameKind.symm.trans isInteger.1
  | comma =>
      refine ⟨sameKind, fun isInteger => ?_⟩
      cases sameKind.symm.trans isInteger.1
  | fraction x => exact printable.elim
  | whole n =>
      rw [text, Decimal.toList_ofInt printable.1] at sameText
      refine ⟨⟨⟨sameKind, fun point => ?_⟩, ?_⟩, fun _ => ?_⟩
      · rw [sameText] at point
        exact absurd (Decimal.isDigit_of_mem_digits point) (by decide)
      · rw [sameText, Decimal.value_digits, Int.toNat_of_nonneg printable.1]
      · rw [sameText, Decimal.length_digits]
        exact printable.2

theorem kind_of_writes (writes : token.Writes part) : token.kind = part.kind := by
  cases part with
  | word text => exact writes.1
  | comma => exact writes
  | whole n => exact writes.1.1
  | fraction x => exact writes.1

theorem mem_gap {rest : List Part} {c : Char} (member : c ∈ gap part rest) : c = ' ' := by
  unfold gap at member
  split at member
  · cases member
  · cases member
  · cases member
  · exact List.mem_singleton.mp member

theorem kind_of_gap_eq_nil {next : Part} {rest : List Part}
    (nothing : gap part (next :: rest) = []) : part.kind = .comma ∨ next.kind = .comma := by
  unfold gap at nothing
  split at nothing
  · contradiction
  · exact .inl rfl
  · rename_i same
    exact .inr (by cases same; rfl)
  · cases nothing

/-- Parts that are read as they are written. -/
def ArePrintable (parts : List Part) : Prop :=
  parts ≠ [] ∧ forall part, part ∈ parts -> part.IsPrintable

/-- A spelling in writing is made up of tokens that write it.  The blank between two parts
is there wherever the tokens need one. -/
theorem exists_tokens {parts : List Part}
    (printable : forall part, part ∈ parts -> part.IsPrintable) (line : Int) (column : Nat) :
    Exists fun tokens => Token.MakeUp line column (written parts) tokens ∧
      tokens.Forall₂ Token.Writes parts ∧ (forall token, token ∈ tokens -> token.Fits) ∧
        forall head, head ∈ tokens.head? -> head.column = column := by
  induction parts generalizing column with
  | nil => exact ⟨[], .remark (.inl rfl), .nil, List.forall_mem_nil _, fun _ first => nomatch first⟩
  | cons part rest later =>
      have here : part.IsPrintable := printable part List.mem_cons_self
      have written : Token.Writes ⟨part.kind, part.text, line, column⟩ part ∧
        Token.Fits ⟨part.kind, part.text, line, column⟩ := here.writes rfl rfl
      rcases later (fun other member => printable other (List.mem_cons_of_mem part member))
        (column + part.text.length + (gap part rest).length) with ⟨tokens, makeUp, writes, fits, _⟩
      refine ⟨⟨part.kind, part.text, line, column⟩ :: tokens, .token here.isText ?_ ?_ makeUp,
        .cons written.1 writes, List.forall_mem_cons.mpr ⟨written.2, fits⟩, ?_⟩
      · exact fun c member => mem_gap member ▸ rfl
      · intro nothing next isNext sameKind
        cases writes with
        | nil => cases isNext
        | cons writesNext _ =>
            cases isNext
            rcases kind_of_gap_eq_nil nothing with isComma | isComma
            · exact isComma
            · rw [← sameKind, kind_of_writes writesNext, isComma]
      · rintro _ ⟨⟩
        rfl

/-- The scanner takes from a spelling in writing the tokens that write it. -/
theorem ArePrintable.exists_scan {parts : List Part} (printable : ArePrintable parts) (line : Int) :
    Exists fun head => Exists fun others =>
      Token.scan line (written parts) = .ok (head :: others) ∧ head.line = line ∧ head.column = 1 ∧
        (head :: others).Forall₂ Token.Writes parts ∧
          forall token, token ∈ head :: others -> token.Fits := by
  rcases exists_tokens printable.2 line 1 with ⟨tokens, makeUp, writes, fits, place⟩
  have scanned : Token.scan line (written parts) = .ok tokens := makeUp.scanFrom
  cases tokens with
  | nil =>
      cases writes
      exact absurd rfl printable.1
  | cons head others =>
      exact ⟨head, others, scanned, Token.line_of_mem_scan scanned _ List.mem_cons_self,
        place head rfl, writes, fits⟩

end Part

/-! ## Lines -/

namespace Text

/-- A line that can be written: it is not empty and is not broken. -/
def IsSolid (row : List Char) : Prop :=
  row ≠ [] ∧ forall c, c ∈ row -> endsLine c = false

/-- No letter and no digit ends a line. -/
theorem endsLine_of_isAlphanum {c : Char} (belongs : c.isAlphanum = true) : endsLine c = false := by
  refine Bool.eq_false_iff.mpr fun ends => ?_
  simp only [endsLine, Bool.or_eq_true, decide_eq_true_eq] at ends
  rcases ends with ((((((((rfl | rfl) | rfl) | rfl) | rfl) | rfl) | rfl) | rfl) | rfl) | rfl <;>
    cases belongs

/-- No token is broken at the end of a line. -/
theorem isSolid_of_isText {kind : TokenKind} {text : List Char} (isText : Token.IsText kind text) :
    IsSolid text := by
  have ofDigits {digits : List Char} (isRun : Token.IsRun Char.isDigit digits) : IsSolid digits :=
    ⟨isRun.1, fun c member =>
      endsLine_of_isAlphanum (Bool.or_eq_true_iff.mpr (.inr (isRun.2 c member)))⟩
  cases kind with
  | word =>
      exact ⟨isText.1, fun c member =>
        endsLine_of_isAlphanum (Bool.or_eq_true_iff.mpr (.inl (isText.2 c member)))⟩
  | comma =>
      cases isText
      exact ⟨List.cons_ne_nil _ _, List.forall_mem_singleton.mpr rfl⟩
  | number =>
      rcases isText with digits | ⟨whole, fraction, digits, more, rfl⟩
      · exact ofDigits digits
      · exact ⟨List.append_ne_nil_of_left_ne_nil digits.1 _, List.forall_mem_append.mpr
          ⟨(ofDigits digits).2, List.forall_mem_cons.mpr ⟨rfl, (ofDigits more).2⟩⟩⟩

/-- Lines that are joined by line feeds are found again. -/
theorem lines_intercalate {rows : List (List Char)}
    (solid : forall row, row ∈ rows -> IsSolid row) :
    lines (List.intercalate ['\n'] rows) = rows :=
  lines_intercalate_of_solid (fun row member => (solid row member).2)
    fun row last => (solid row (List.mem_of_mem_getLast? last)).1

end Text

/-- A spelling in writing fits on a line. -/
theorem Part.ArePrintable.isSolid {parts : List Part} (printable : ArePrintable parts) :
    Text.IsSolid (written parts) := by
  rcases printable with ⟨nonempty, printable⟩
  have isSolid {part : Part} (listed : part ∈ parts) : Text.IsSolid part.text :=
    Text.isSolid_of_isText (printable part listed).isText
  constructor
  · rcases List.exists_cons_of_ne_nil nonempty with ⟨part, rest, rfl⟩
    rw [written, List.append_assoc]
    exact List.append_ne_nil_of_left_ne_nil (isSolid List.mem_cons_self).1 _
  · clear nonempty printable
    induction parts with
    | nil => exact List.forall_mem_nil _
    | cons part rest later =>
        rw [written, List.forall_mem_append, List.forall_mem_append]
        exact ⟨⟨(isSolid List.mem_cons_self).2, fun c member => mem_gap member ▸ rfl⟩,
          later fun listed => isSolid (List.mem_cons_of_mem part listed)⟩

/-! ## The text of a statement -/

theorem pairText_eq {x y : Int} (readableX : Decimal.IsReadable x)
    (readableY : Decimal.IsReadable y) :
    pairText x y = .ok (Decimal.ofInt x ++ "," ++ Decimal.ofInt y) := by
  unfold pairText
  rw [Coordinate.text_int, Coordinate.text_int, readableX.exactText_eq, readableY.exactText_eq]
  rfl

theorem Stamp.text_eq {stamp : Stamp} (printable : (Statement.stamp stamp).IsPrintable) :
    stamp.text = .ok (String.ofList (Part.written stamp.spelling)) := by
  rcases stamp with ⟨mode, area⟩
  rcases printable with ⟨x, y, width, height⟩
  unfold Stamp.text
  rw [pairText_eq x y, Coordinate.text_int, Coordinate.text_int, width.exactText_eq,
    height.exactText_eq]
  refine congrArg Except.ok (String.toList_injective ?_)
  -- The parts and the blanks between them are put together before the strings of the text.
  cases mode
  all_goals
    unfold Stamp.spelling Rectangle.spelling pairSpelling
    simp only [Part.written, Part.text, Part.gap, List.cons_append, List.nil_append,
      List.append_nil, String.toList_ofList]
    simp only [String.toList_append, List.append_assoc]
    rfl

theorem SideLine.text_eq {line : SideLine} (printable : (Statement.line line).IsPrintable) :
    line.text = .ok (String.ofList (Part.written line.spelling)) := by
  rcases line with ⟨side, _, _, _⟩
  rcases printable with ⟨x, y, length⟩
  unfold SideLine.text
  rw [pairText_eq x y, Coordinate.text_int, length.exactText_eq]
  refine congrArg Except.ok (String.toList_injective ?_)
  unfold SideLine.spelling pairSpelling
  simp only [Part.written, Part.text, Part.gap, List.cons_append, List.nil_append, List.append_nil,
    String.toList_ofList]
  simp only [String.toList_append, List.append_assoc]
  rfl

theorem Circle.text_eq {x y : Int} {parts : List Part} (readableX : Decimal.IsReadable x)
    (readableY : Decimal.IsReadable y) (spelled : (Circle.within x y).spelling? = some parts) :
    (Circle.within x y).text = .ok (String.ofList (Part.written parts)) := by
  cases spelled
  unfold Circle.text
  dsimp only
  rw [pairText_eq readableX readableY]
  refine congrArg Except.ok (String.toList_injective ?_)
  unfold pairSpelling
  simp only [Part.written, Part.text, Part.gap, List.cons_append, List.nil_append, List.append_nil,
    String.toList_ofList]
  simp only [String.toList_append, List.append_assoc]
  rfl

theorem CellSquare.text_eq {square : CellSquare}
    (printable : (Statement.square square).IsPrintable) :
    square.text = .ok (String.ofList (Part.written square.spelling)) := by
  unfold CellSquare.text
  rw [pairText_eq printable.1 printable.2]
  refine congrArg Except.ok (String.toList_injective ?_)
  unfold CellSquare.spelling pairSpelling
  simp only [Part.written, Part.text, Part.gap, List.cons_append, List.nil_append, List.append_nil,
    String.toList_ofList]
  simp only [String.toList_append, List.append_assoc]
  rfl

theorem GridSize.text_eq {size : GridSize} (width : Decimal.IsReadable size.width)
    (height : Decimal.IsReadable size.height) :
    size.text = .ok (String.ofList (Part.written size.spelling)) := by
  unfold GridSize.text
  rw [pairText_eq width height]
  refine congrArg Except.ok (String.toList_injective ?_)
  unfold GridSize.spelling pairSpelling
  simp only [Part.written, Part.text, Part.gap, List.append_nil, String.toList_ofList]
  simp only [String.toList_append, List.append_assoc]
  rfl

theorem GridSize.arePrintable_spelling {size : GridSize} (width : Decimal.IsReadable size.width)
    (height : Decimal.IsReadable size.height) : Part.ArePrintable size.spelling := by
  refine ⟨List.cons_ne_nil _ _, ?_⟩
  simp [GridSize.spelling, pairSpelling, Part.IsPrintable, Token.IsText, Token.IsRun, width, height]

namespace Statement

variable {statement : Statement} {parts : List Part}

theorem IsPrintable.arePrintable (printable : statement.IsPrintable)
    (spelled : statement.spelling? = some parts) : Part.ArePrintable parts := by
  cases statement with
  | stamp item =>
      cases spelled
      rcases item with ⟨fill | turn, area⟩
      all_goals
        refine ⟨List.cons_ne_nil _ _, ?_⟩
        simpa [Stamp.spelling, Rectangle.spelling, pairSpelling, Part.IsPrintable, Token.IsText,
          Token.IsRun, IsPrintable, and_assoc] using printable
  | line item =>
      cases spelled
      rcases item with ⟨side, x, y, length⟩
      refine ⟨List.cons_ne_nil _ _, ?_⟩
      cases side
      all_goals
        simpa [SideLine.spelling, Side.word, pairSpelling, Part.IsPrintable, Token.IsText,
          Token.IsRun, IsPrintable, and_assoc] using printable
  | circle item =>
      cases item with
      | around x y radius => exact printable.elim
      | within x y =>
          cases spelled
          refine ⟨List.cons_ne_nil _ _, ?_⟩
          simpa [pairSpelling, Part.IsPrintable, Token.IsText, Token.IsRun, IsPrintable]
            using printable
  | square item =>
      cases spelled
      refine ⟨List.cons_ne_nil _ _, ?_⟩
      simpa [CellSquare.spelling, pairSpelling, Part.IsPrintable, Token.IsText, Token.IsRun,
        IsPrintable] using printable

/-- The text of a statement is its spelling in writing. -/
theorem IsPrintable.text_eq (printable : statement.IsPrintable)
    (spelled : statement.spelling? = some parts) :
    statement.text = .ok (String.ofList (Part.written parts)) := by
  cases statement with
  | stamp item =>
      cases spelled
      exact Stamp.text_eq printable
  | line item =>
      cases spelled
      exact SideLine.text_eq printable
  | circle item =>
      cases item with
      | around x y radius => exact printable.elim
      | within x y => exact Circle.text_eq printable.1 printable.2 spelled
  | square item =>
      cases spelled
      exact CellSquare.text_eq printable

theorem IsPrintable.exists_spelling (printable : statement.IsPrintable) :
    Exists fun parts => statement.spelling? = some parts := by
  cases statement with
  | circle item =>
      cases item with
      | around x y radius => exact printable.elim
      | within x y => exact ⟨_, rfl⟩
  | stamp item => exact ⟨_, rfl⟩
  | line item => exact ⟨_, rfl⟩
  | square item => exact ⟨_, rfl⟩

/-- A statement in writing; nothing if it has no spelling. -/
def row (statement : Statement) : List Char :=
  Part.written (statement.spelling?.getD [])

theorem row_of_spelling? (spelled : statement.spelling? = some parts) :
    statement.row = Part.written parts := by
  rw [row, spelled]
  rfl

theorem IsPrintable.isSolid_row (printable : statement.IsPrintable) :
    Text.IsSolid statement.row := by
  rcases printable.exists_spelling with ⟨parts, spelled⟩
  rw [row_of_spelling? spelled]
  exact (printable.arePrintable spelled).isSolid

end Statement

/-! ## Maps -/

namespace Document

/-- A map in writing: the grid, and then one statement to a line. -/
def print (size : GridSize) (statements : List Statement) : Except Fault (List Char) := do
  let grid ← size.text
  let texts ← statements.mapM Statement.text
  return List.intercalate ['\n'] ((grid :: texts).map String.toList)

/-- Statements one to a line, each from the first column on. -/
def inLines (statements : List Statement) (first : Nat) : List (Placed Statement) :=
  (statements.zipIdx first).map fun entry => ⟨entry.1, some (entry.2 : Int), some 1⟩

theorem print_eq {size : GridSize} {statements : List Statement}
    (width : Decimal.IsReadable size.width) (height : Decimal.IsReadable size.height)
    (printable : forall statement, statement ∈ statements -> statement.IsPrintable) :
    print size statements =
      .ok (List.intercalate ['\n']
        (Part.written size.spelling :: statements.map Statement.row)) := by
  have texts : statements.mapM Statement.text =
      .ok (statements.map fun statement => String.ofList statement.row) := by
    refine Outcome.mapM_eq_ok fun statement member => ?_
    rcases (printable statement member).exists_spelling with ⟨parts, spelled⟩
    rw [(printable statement member).text_eq spelled, Statement.row_of_spelling? spelled]
  unfold print
  rw [texts, GridSize.text_eq width height]
  change Except.ok (List.intercalate ['\n'] _) = _
  rw [List.map_cons, List.map_map, String.toList_ofList]
  simp only [Function.comp_def, String.toList_ofList]

theorem readStatements_row {statement : Statement} (printable : statement.IsPrintable) {n : Nat}
    {rest : List Line} {later : List (Placed Statement)}
    (behind : readStatements rest = .ok later) :
    readStatements ((n, statement.row) :: rest) =
      .ok (⟨statement, some (n : Int), some 1⟩ :: later) := by
  rcases printable.exists_spelling with ⟨parts, spelled⟩
  rw [Statement.row_of_spelling? spelled]
  rcases (printable.arePrintable spelled).exists_scan n with
    ⟨head, others, scanned, line, column, writes, fits⟩
  have result : Grammar.statement.read (.atStart n (head :: others)) = .ok statement :=
    (Grammar.read_statement_iff (.atStart n (head :: others)) fits).mpr ⟨parts, spelled, writes⟩
  refine (readStatements_cons_eq_ok scanned).mpr
    ⟨Grammar.head_spelling?_ne_grid spelled writes, statement, result, later, behind, ?_⟩
  rw [placedAt, line, column]
  rfl

theorem readStatements_rows {statements : List Statement}
    (printable : forall statement, statement ∈ statements -> statement.IsPrintable) (n : Nat) :
    readStatements (((statements.map Statement.row).zipIdx n).map fun entry =>
      (entry.2 + 1, entry.1)) = .ok (inLines statements (n + 1)) := by
  induction statements generalizing n with
  | nil => rfl
  | cons statement rest later =>
      rw [List.map_cons, List.zipIdx_cons, List.map_cons]
      have behind := fun other member => printable other (List.mem_cons_of_mem statement member)
      exact readStatements_row (printable statement List.mem_cons_self) (later behind (n + 1))

theorem readLines_grid {size : GridSize} (positive : 0 < size.width ∧ 0 < size.height)
    (printable : Part.ArePrintable size.spelling) {n : Nat} {rest : List Line}
    {later : List (Placed Statement)} (behind : readStatements rest = .ok later) :
    readLines ((n, Part.written size.spelling) :: rest) =
      .ok ⟨⟨size, some (n : Int), some 1⟩, later⟩ := by
  rcases printable.exists_scan n with ⟨head, others, scanned, line, column, writes, fits⟩
  have placed : placedAt size head = ⟨size, some (n : Int), some 1⟩ := by
    rw [placedAt, line, column]
    rfl
  have declared : readGrid (n, Part.written size.spelling).1 head others =
      .ok ⟨size, some (n : Int), some 1⟩ :=
    placed ▸ (readGrid_iff scanned fits).mpr ⟨(spelled_placedAt scanned).mpr writes, positive⟩
  rw [readLines_cons_of_grid scanned (isWord_grid_of_spelled writes), declared, behind]
  rfl

/-- A map that is printed is read as it was, each statement in its own line. -/
theorem read_print {size : GridSize} {statements : List Statement}
    (positive : 0 < size.width ∧ 0 < size.height) (width : Decimal.IsReadable size.width)
    (height : Decimal.IsReadable size.height)
    (printable : forall statement, statement ∈ statements -> statement.IsPrintable) :
    Exists fun text => print size statements = .ok text ∧
      read text = .ok ⟨⟨size, some 1, some 1⟩, inLines statements 2⟩ := by
  have grid := GridSize.arePrintable_spelling width height
  refine ⟨_, print_eq width height printable, ?_⟩
  have solid : forall row, row ∈ Part.written size.spelling :: statements.map Statement.row ->
      Text.IsSolid row := by
    rw [List.forall_mem_cons, List.forall_mem_map]
    exact ⟨grid.isSolid, fun statement member => (printable statement member).isSolid_row⟩
  unfold read Text.numberedLines
  rw [Text.lines_intercalate solid, List.zipIdx_cons, List.map_cons]
  exact readLines_grid positive grid (readStatements_rows printable 1)

/-- A statement of each sort, among them a stamp without cells. -/
def galleryStatements : List Statement :=
  [.stamp ⟨.fill, ⟨0, 0, 12, 3⟩⟩, .stamp ⟨.turn, ⟨1, 1, 10, 0⟩⟩, .line ⟨.bottom, 0, 0, 12⟩,
    .circle (.within 4 1), .square ⟨10, 2⟩]

theorem read_print_gallery :
    (0 < (12 : Int) ∧ 0 < (3 : Int)) ∧ Decimal.IsReadable 12 ∧ Decimal.IsReadable 3 ∧
      (forall statement, statement ∈ galleryStatements -> statement.IsPrintable) ∧
        Exists fun text => print ⟨12, 3⟩ galleryStatements = .ok text ∧
          read text = .ok ⟨⟨⟨12, 3⟩, some 1, some 1⟩, inLines galleryStatements 2⟩ := by
  have printable : forall statement, statement ∈ galleryStatements -> statement.IsPrintable := by
    decide +kernel
  exact ⟨by decide, by decide +kernel, by decide +kernel, printable,
    read_print (by decide) (by decide +kernel) (by decide +kernel) printable⟩

end Document
end BattleMap
