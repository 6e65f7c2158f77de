import BattleMap.Proofs.FirstFault

namespace BattleMap

/-!
# Where a diagnostic points

A diagnostic that finds something unexpected points at the earliest place of its line
where the line can no longer become right.  This is a character that belongs to no token;
or a token that no legal line has behind the tokens before it, although these begin a
legal line; or the place behind the last token, if more tokens are needed.

A legal line is a grid declaration or a statement.  Whether the grid has cells, and
whether a statement fits into it, is not a matter of how they are written.
-/

namespace Token

/-- The last token of a line ends where only blanks and a remark follow. -/
theorem split_last_of_scan {line : Int} {text : List Char} {tokens : List Token} {last : Token}
    (scanned : scan line text = .ok tokens) (isLast : last ∈ tokens.getLast?) :
    Exists fun before => Exists fun gap => Exists fun remark => text = before ++ gap ++ remark ∧
      last.endColumn = before.length + 1 ∧ IsGap gap ∧ IsRemark remark := by
  rcases scanFrom_eq_ok_iff.mp scanned with ⟨front, rest, rfl, _, makeUp⟩
  rcases makeUp.split_last isLast with ⟨before, gap, remark, rfl, place, isGap, isRemark⟩
  refine ⟨front ++ before, gap, remark, ?_, ?_, isGap, isRemark⟩
  · simp only [List.append_assoc]
  · rw [place, List.length_append]
    omega

end Token

namespace Document

/-- The tokens of a legal line. -/
def IsLegal (tokens : List Token) : Prop :=
  (forall token, token ∈ tokens -> Token.IsText token.kind token.text) ∧
    Exists fun spelling => tokens.Forall₂ Token.Writes spelling ∧
      ((Exists fun size : GridSize => spelling = size.spelling) ∨
        Exists fun statement : Statement => statement.spelling? = some spelling)

/-- The tokens begin a legal line. -/
def BeginsLegal (tokens : List Token) : Prop :=
  Exists fun more => IsLegal (tokens ++ more)

/-- What can be found at a column of a line where something else is expected. -/
inductive PointsAt (line : Line) : Nat -> String -> Prop where
  /-- A character that belongs to nothing. -/
  | character {before behind : List Char} {c : Char} {tokens : List Token}
      (split : line.2 = before ++ c :: behind) (isStray : Token.IsStray c) (noHash : '#' ∉ before)
      (makeUp : Token.MakeUpLine line.1 before tokens) :
      PointsAt line (before.length + 1) (Text.quoted [c])
  /-- A token that continues no legal line, behind tokens that begin one. -/
  | token {front behind : List Token} {token : Token}
      (scanned : Token.scan line.1 line.2 = .ok (front ++ token :: behind))
      (stands : token.StandsIn line.1 1 line.2) (begins : BeginsLegal front)
      (stops : ¬ BeginsLegal (front ++ [token])) : PointsAt line token.column token.describe
  /-- The place behind the last token, where a legal line goes on. -/
  | ending {tokens more : List Token} {last : Token} {before gap remark : List Char}
      (scanned : Token.scan line.1 line.2 = .ok tokens) (isLast : last ∈ tokens.getLast?)
      (split : line.2 = before ++ gap ++ remark) (place : last.endColumn = before.length + 1)
      (isGap : Token.IsGap gap) (isRemark : Token.IsRemark remark) (nonempty : more ≠ [])
      (begins : IsLegal (tokens ++ more)) (incomplete : ¬ IsLegal tokens) :
      PointsAt line last.endColumn "end of line"

variable {line : Line} {tokens : List Token}

theorem PointsAt.column_bounds {column : Nat} {found : String}
    (pointsAt : PointsAt line column found) : 1 ≤ column ∧ column ≤ line.2.length + 1 := by
  cases pointsAt with
  | character split isStray noHash makeUp =>
      rw [split, List.length_append]
      omega
  | @token front behind token scanned stands begins stops =>
      rcases (Token.isText_of_mem_scan scanned token List.mem_append_cons_self).exists_starts with
        ⟨c, others, nonempty, _⟩
      rcases stands with ⟨_, follows, written⟩
      have length := congrArg List.length written
      rw [nonempty, List.length_take, List.length_drop, List.length_cons] at length
      omega
  | ending scanned isLast split place =>
      rw [split, place, List.length_append, List.length_append]
      omega

theorem isLegal_iff :
    IsLegal tokens ↔ (forall token, token ∈ tokens -> Token.IsText token.kind token.text) ∧
      (Grammar.grid.Accepts tokens ∨ Grammar.statement.Accepts tokens) := by
  refine and_congr_right fun _ => ⟨?_, ?_⟩
  · rintro ⟨spelling, written, ⟨size, spelled⟩ | ⟨statement, spelled⟩⟩
    · exact .inl ⟨spelling, size, Grammar.spells_grid_iff.mpr spelled, written⟩
    · exact .inr ⟨spelling, statement, Grammar.spells_statement_iff.mpr spelled, written⟩
  · rintro (⟨spelling, size, spelled, written⟩ | ⟨spelling, statement, spelled, written⟩)
    · exact ⟨spelling, written, .inl ⟨size, Grammar.spells_grid_iff.mp spelled⟩⟩
    · exact ⟨spelling, written, .inr ⟨statement, Grammar.spells_statement_iff.mp spelled⟩⟩

/-- The form decides which lines with the given first token are legal. -/
structure Governs {α : Type} (form : Form α) (head : Token) : Prop where
  isLegal : forall tokens, (forall token, token ∈ tokens -> Token.IsText token.kind token.text) ->
    form.Accepts tokens -> IsLegal tokens
  accepts : forall tokens, head ∈ tokens.head? -> IsLegal tokens -> form.Accepts tokens
  isClear : form.IsClear
  isWritable : form.IsWritable

theorem governs_grid {head : Token} (isGrid : head.isWord "grid" = true) :
    Governs Grammar.grid head where
  isLegal _ legible accepted := isLegal_iff.mpr ⟨legible, .inl accepted⟩
  accepts tokens first legal := by
    rcases (isLegal_iff.mp legal).2 with accepted | ⟨spelling, statement, spelled, written⟩
    · exact accepted
    · rcases List.head?_eq_some_iff.mp first with ⟨others, rfl⟩
      cases isGrid.symm.trans
        (Grammar.head_spelling?_ne_grid (Grammar.spells_statement_iff.mp spelled) written)
  isClear := Grammar.isClear_grid
  isWritable := Grammar.isWritable_grid

theorem governs_statement {head : Token} (noGrid : head.isWord "grid" = false) :
    Governs Grammar.statement head where
  isLegal _ legible accepted := isLegal_iff.mpr ⟨legible, .inr accepted⟩
  accepts tokens first legal := by
    rcases (isLegal_iff.mp legal).2 with ⟨spelling, size, spelled, written⟩ | accepted
    · rcases List.head?_eq_some_iff.mp first with ⟨others, rfl⟩
      cases noGrid.symm.trans
        (isWord_grid_of_spelled (Grammar.spells_grid_iff.mp spelled ▸ written))
    · exact accepted
  isClear := Grammar.isClear_statement
  isWritable := Grammar.isWritable_statement

section Governed

variable {α : Type} {form : Form α} {head : Token}

/-- A token that begins no sentence of the form is the earliest wrong place of its line. -/
theorem pointsAt_token (governs : Governs form head) {front behind more : List Token} {token : Token}
    (scanned : Token.scan line.1 line.2 = .ok (front ++ token :: behind))
    (first : head ∈ (front ++ token :: behind).head?) (legal : IsLegal (front ++ more))
    (stops : ¬ form.Begins (front ++ [token])) : PointsAt line token.column token.describe := by
  refine .token scanned (Token.standsIn_of_mem_scan scanned List.mem_append_cons_self)
    ⟨more, legal⟩ ?_
  rintro ⟨others, goesOn⟩
  have sameFirst : head ∈ (front ++ [token] ++ others).head? := by
    cases front <;> exact first
  refine stops ⟨others, fun token member => ?_, governs.accepts _ sameFirst goesOn⟩
  exact goesOn.1 token (List.mem_append_right _ member)

/-- Where the tokens of a line come to an end too early, the place behind the last of them
is the earliest wrong one. -/
theorem pointsAt_ending (governs : Governs form head) {more : List Token} {last : Token}
    (scanned : Token.scan line.1 line.2 = .ok tokens) (first : head ∈ tokens.head?)
    (isLast : last ∈ tokens.getLast?) (legal : IsLegal (tokens ++ more))
    (stops : ¬ form.Accepts tokens) : PointsAt line last.endColumn "end of line" := by
  have incomplete : ¬ IsLegal tokens := fun complete => stops (governs.accepts tokens first complete)
  have nonempty : more ≠ [] := by
    rintro rfl
    exact incomplete (List.append_nil tokens ▸ legal)
  rcases Token.split_last_of_scan scanned isLast with
    ⟨before, gap, remark, split, place, isGap, isRemark⟩
  exact .ending scanned isLast split place isGap isRemark nonempty legal incomplete

/-- The reader of a form blames the earliest wrong place of a line. -/
theorem pointsAt_of_read (governs : Governs form head)
    (scanned : Token.scan line.1 line.2 = .ok tokens) (first : head ∈ tokens.head?)
    {diagnostic : Diagnostic}
    (failed : form.read (.atStart line.1 tokens) = .error (.diagnosed diagnostic)) :
    Exists fun found => Exists fun expected => Exists fun column : Nat =>
      diagnostic = ⟨.unexpected found expected, some (line.1 : Int), some (column : Int)⟩ ∧
        PointsAt line column found := by
  have legible := Token.isText_of_mem_scan scanned
  rcases Form.stops_of_read governs.isClear governs.isWritable failed with impossible |
    ⟨front, behind, expected, rfl, same, ⟨more, moreLegible, accepted⟩, stops⟩
  · cases impossible
  have legal : IsLegal (front ++ more) := by
    refine governs.isLegal _ (List.forall_mem_append.mpr ⟨fun token member => ?_, moreLegible⟩)
      accepted
    exact legible token (List.mem_append_left behind member)
  cases behind with
  | cons token rest =>
      have here := Token.line_of_mem_scan scanned token List.mem_append_cons_self
      cases same
      exact ⟨_, expected, token.column, by rw [here],
        pointsAt_token governs scanned first legal stops⟩
  | nil =>
      rw [List.append_nil] at scanned first same
      have nonempty : front ≠ [] := List.ne_nil_of_mem (List.mem_of_mem_head? first)
      have isLast : front.getLast nonempty ∈ front.getLast? := List.getLast?_eq_some_getLast nonempty
      refine ⟨_, expected, _, ?_, pointsAt_ending governs scanned first isLast legal stops⟩
      cases same
      rw [Option.mem_def.mp isLast]
      rfl

end Governed

/-- A diagnostic of something unexpected names a line of the text and points at a column
of it, at most one behind its end. -/
theorem pointsAt_of_unexpected {text : List Char} {found expected : String}
    {number column : Option Int}
    (failed : read text = .error (.diagnosed ⟨.unexpected found expected, number, column⟩)) :
    Exists fun line : Line => Exists fun place : Nat => line ∈ Text.numberedLines text ∧
      number = some (line.1 : Int) ∧ column = some (place : Int) ∧
        1 ≤ place ∧ place ≤ line.2.length + 1 ∧ PointsAt line place found := by
  rcases failsAtOnce_of_readLines failed with impossible | ⟨before, line, behind, split, wrong, _⟩
  · cases impossible
  have blamed : Exists fun place : Nat => number = some (line.1 : Int) ∧
      column = some (place : Int) ∧ PointsAt line place found := by
    cases wrong with
    | stray failed =>
        rcases Token.exists_stray_of_scanFrom failed with
          ⟨front, c, rest, text, same, isStray, noHash, tokens, scanned⟩
        cases same
        rw [Nat.add_comm]
        exact ⟨_, rfl, rfl, .character text isStray noHash (Token.scanFrom_eq_ok_iff.mp scanned)⟩
    | grid scanned isGrid failed =>
        rcases Outcome.bind_eq_error.mp failed with failed | ⟨size, declared, failed⟩
        · rcases pointsAt_of_read (governs_grid isGrid) scanned rfl failed with
            ⟨_, _, place, same, pointsAt⟩
          cases same
          exact ⟨place, rfl, rfl, pointsAt⟩
        · split at failed
          · cases failed
          · rcases Grammar.exists_rejectEmpty_of_read_grid scanned declared _ _ with
              ⟨name, rejected⟩
            cases rejected.symm.trans failed
    | statement scanned noGrid failed =>
        rcases pointsAt_of_read (governs_statement noGrid) scanned rfl failed with
          ⟨_, _, place, same, pointsAt⟩
        cases same
        exact ⟨place, rfl, rfl, pointsAt⟩
  rcases blamed with ⟨place, sameNumber, sameColumn, pointsAt⟩
  exact ⟨line, place, split ▸ List.mem_append_cons_self, sameNumber, sameColumn,
    pointsAt.column_bounds.1, pointsAt.column_bounds.2, pointsAt⟩

/-- A map whose second statement starts in the middle of a cell. -/
def shiftedYard : List Char :=
  "grid 3,3 # a yard\n\nrect at 0,0 width 1 height 1\nxor rect at 1,0.5 width 1 height 1".toList

theorem pointsAt_of_unexpected_shiftedYard :
    read shiftedYard =
        .error (.diagnosed ⟨.unexpected "number 0.5" "integer", some 4, some 15⟩) ∧
      Exists fun line : Line => Exists fun place : Nat => line ∈ Text.numberedLines shiftedYard ∧
        some (4 : Int) = some (line.1 : Int) ∧ some (15 : Int) = some (place : Int) ∧
          1 ≤ place ∧ place ≤ line.2.length + 1 ∧ PointsAt line place "number 0.5" := by
  have failed : read shiftedYard =
      .error (.diagnosed ⟨.unexpected "number 0.5" "integer", some 4, some 15⟩) := by
    decide +kernel
  exact ⟨failed, pointsAt_of_unexpected failed⟩

end Document
end BattleMap
