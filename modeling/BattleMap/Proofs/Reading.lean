import BattleMap.Document.Reading
import BattleMap.Proofs.Outcome

namespace BattleMap

/-!
# What reading can yield

A form determines the values that can be read with it: numbers without a point
are never below zero, whatever the tokens are, and everything else is one of the
choices of the form.  So a property of all statements of a text is checked on
the grammar, once for each kind of statement, and not on tokens.
-/

namespace Form

/-- Every value that a form can yield has a property. -/
def Yields {α : Type} (property : α -> Prop) : Form α -> Prop
  | .done value => property value
  | .comma next => next.Yields property
  | .whole next => forall n : Nat, (next n).Yields property
  | .fraction next => forall x : Float, (next x).Yields property
  | .word _ choices next => forall choice, choice ∈ choices -> (next choice.2).Yields property

theorem yields_keyword {α : Type} {property : α -> Prop} {word : String} {next : Form α}
    (yields : next.Yields property) : (keyword word next).Yields property :=
  fun _ _ => yields

theorem yields_pair {α : Type} {property : α -> Prop} {next : Int -> Int -> Form α}
    (yields : forall x y : Nat, (next x y).Yields property) : (pair next).Yields property :=
  yields

/-- What is read has every property that the form yields. -/
theorem of_read {α : Type} {property : α -> Prop} {form : Form α} {cursor : Cursor} {value : α}
    (yields : form.Yields property) (result : form.read cursor = .ok value) : property value := by
  induction form generalizing cursor with
  | done value =>
      unfold read at result
      split at result
      · cases result
        exact yields
      · cases result
  | comma next later =>
      unfold read at result
      split at result
      · split at result
        · exact later yields result
        · cases result
      · cases result
  | whole next later =>
      unfold read at result
      split at result
      · split at result
        · split at result
          · cases result
          · exact later _ (yields _) result
        · cases result
      · cases result
  | fraction next later =>
      unfold read at result
      split at result
      · split at result
        · exact later _ (yields _) result
        · cases result
      · cases result
  | word expected choices next later =>
      unfold read at result
      split at result
      · split at result
        · exact later _ (yields _ (List.mem_of_find?_eq_some ‹_›)) result
        · cases result
      · cases result

end Form

namespace Document

variable {property : Statement -> Prop}

theorem forall_statements_of_readStatements (yields : Grammar.statement.Yields property)
    {lines : List Line} {statements : List (Placed Statement)}
    (result : readStatements lines = .ok statements) :
    forall placed, placed ∈ statements -> property placed.item := by
  induction lines generalizing statements with
  | nil =>
      cases result
      intro placed member
      cases member
  | cons line rest later =>
      unfold readStatements at result
      rcases Outcome.bind_eq_ok.mp result with ⟨tokens, _, result⟩
      cases tokens with
      | nil => exact later result
      | cons head others =>
          dsimp only at result
          split at result
          · cases result
          · rcases Outcome.bind_eq_ok.mp result with ⟨statement, first, result⟩
            rcases Outcome.bind_eq_ok.mp result with ⟨onward, behind, result⟩
            cases result
            intro placed member
            rcases List.mem_cons.mp member with same | member
            · rw [same]
              exact Form.of_read yields first
            · exact later behind placed member

/-- All statements of a text have every property that the grammar yields. -/
theorem forall_statements_of_read (yields : Grammar.statement.Yields property) {text : List Char}
    {document : Document} (result : read text = .ok document) :
    forall placed, placed ∈ document.statements -> property placed.item := by
  have general : forall lines : List Line, readLines lines = .ok document ->
      forall placed, placed ∈ document.statements -> property placed.item := by
    intro lines
    induction lines with
    | nil =>
        intro impossible
        cases impossible
    | cons line rest later =>
        intro result
        unfold readLines at result
        rcases Outcome.bind_eq_ok.mp result with ⟨tokens, _, result⟩
        cases tokens with
        | nil => exact later result
        | cons head others =>
            dsimp only at result
            split at result
            · rcases Outcome.bind_eq_ok.mp result with ⟨grid, _, result⟩
              rcases Outcome.bind_eq_ok.mp result with ⟨statements, behind, result⟩
              cases result
              exact forall_statements_of_readStatements yields behind
            · rcases Outcome.bind_eq_ok.mp result with ⟨_, _, impossible⟩
              cases impossible
  exact general _ result

end Document

/-- The area of a stamp does not start before the grid, and its size is not
below zero. -/
def Stamp.IsNonneg (stamp : Stamp) : Prop :=
  (0 ≤ stamp.area.x ∧ 0 ≤ stamp.area.y) ∧ 0 ≤ stamp.area.width ∧ 0 ≤ stamp.area.height

/-- A statement that is a stamp is one that a text can have. -/
def Statement.IsNonneg : Statement -> Prop
  | .stamp item => item.IsNonneg
  | _ => True

namespace Grammar

theorem rectangle_yields_isNonneg (mode : StampMode) :
    (rectangle mode).Yields Statement.IsNonneg := by
  apply Form.yields_keyword
  apply Form.yields_pair
  intro x y
  apply Form.yields_keyword
  intro width
  apply Form.yields_keyword
  intro height
  exact ⟨⟨Int.natCast_nonneg x, Int.natCast_nonneg y⟩, Int.natCast_nonneg width,
    Int.natCast_nonneg height⟩

theorem sideLine_yields_isNonneg : sideLine.Yields Statement.IsNonneg := by
  apply Form.yields_keyword
  intro side _
  apply Form.yields_keyword
  apply Form.yields_pair
  intro x y
  apply Form.yields_keyword
  intro length
  exact trivial

theorem circle_yields_isNonneg : circle.Yields Statement.IsNonneg := by
  intro centre _
  apply Form.yields_pair
  intro x y
  cases centre.2 with
  | cell => exact trivial
  | point =>
      apply Form.yields_keyword
      intro radius
      exact trivial

theorem square_yields_isNonneg : square.Yields Statement.IsNonneg := by
  apply Form.yields_keyword
  apply Form.yields_pair
  intro x y
  exact trivial

/-- The grammar has no sign, so no rectangle of a text starts before the grid. -/
theorem statement_yields_isNonneg : statement.Yields Statement.IsNonneg := by
  intro opening _
  cases opening.2 with
  | rect => exact rectangle_yields_isNonneg .fill
  | xor => exact Form.yields_keyword (rectangle_yields_isNonneg .turn)
  | line => exact sideLine_yields_isNonneg
  | entity =>
      intro shape _
      cases shape.2 with
      | circle => exact circle_yields_isNonneg
      | square => exact square_yields_isNonneg

end Grammar

/-- The stamps of a text do not start before the grid. -/
theorem Document.isNonneg_of_mem_stamps {text : List Char} {document : Document}
    (result : read text = .ok document) {placed : Placed Stamp} (member : placed ∈ document.stamps) :
    placed.item.IsNonneg := by
  rcases List.mem_filterMap.mp member with ⟨source, sourceMember, same⟩
  have nonneg := forall_statements_of_read Grammar.statement_yields_isNonneg result source sourceMember
  split at same
  · rename_i stamp item
    rw [item] at nonneg
    cases same
    exact nonneg
  · cases same

end BattleMap
