import BattleMap.Proofs.Balance
import BattleMap.Proofs.Reordering
import BattleMap.Proofs.RoundTrip

namespace BattleMap

open Regions (Cell)

/-!
# How the boundary meets the vertices

Four edges can leave a vertex, and each of them runs between two neighbours of the
four cells around it.  Going around the vertex, the boundary leaves it wherever an
unfilled cell is followed by a filled one.  In a round of four cells that happens
twice at most, and twice only if the cells alternate.
-/

/-- The edges that leave a vertex, counted one direction at a time. -/
theorem Edge.departures_eq (edges : List Edge) (v : Vertex) :
    departures edges v = edges.count ⟨v, .east⟩ + edges.count ⟨v, .south⟩ +
      edges.count ⟨v, .west⟩ + edges.count ⟨v, .north⟩ := by
  induction edges with
  | nil => rfl
  | cons edge rest later =>
      rcases edge with ⟨start, direction⟩
      unfold departures at later ⊢
      rw [List.countP_cons, later]
      simp only [List.count_cons, beq_iff_eq, decide_eq_true_eq, Edge.mk.injEq]
      cases direction <;> simp only [reduceCtorEq, and_true, and_false, if_false] <;> omega

namespace Mask

variable {mask : Mask}

/-- Whether a cell of the plane lies on the grid. -/
def HasCell (mask : Mask) (cell : Cell) : Prop :=
  0 ≤ cell.1 ∧ cell.1 < mask.width ∧ 0 ≤ cell.2 ∧ cell.2 < mask.height

/-- Whether an edge has on its right a cell of the grid that is filled, and on its left
a cell beyond the grid or one that is not filled. -/
def IsBorder (mask : Mask) (edge : Edge) : Prop :=
  (mask.HasCell edge.rightCell ∧ mask.fills edge.rightCell = true) ∧
    (¬ mask.HasCell edge.leftCell ∨ mask.fills edge.leftCell = false)

instance (mask : Mask) (cell : Cell) : Decidable (mask.HasCell cell) :=
  inferInstanceAs (Decidable (_ ∧ _))

instance (mask : Mask) (edge : Edge) : Decidable (mask.IsBorder edge) :=
  inferInstanceAs (Decidable (_ ∧ _))

/-- Beyond the grid nothing is filled, so the grid need not be mentioned. -/
theorem isBorder_iff {edge : Edge} :
    mask.IsBorder edge ↔ mask.fills edge.rightCell = true ∧ mask.fills edge.leftCell = false := by
  constructor
  · rintro ⟨⟨_, isFilled⟩, beyond | free⟩
    · exact ⟨isFilled, Bool.eq_false_iff.mpr (mt bounds_of_fills beyond)⟩
    · exact ⟨isFilled, free⟩
  · rintro ⟨isFilled, free⟩
    exact ⟨⟨bounds_of_fills isFilled, isFilled⟩, .inr free⟩

/-- In a round of four cells an unfilled one is followed by a filled one at most twice,
and twice only if filled and unfilled cells alternate. -/
private theorem rises_of_round : forall northWest northEast southEast southWest : Bool,
    let rises : Nat := (if southEast = true ∧ northEast = false then 1 else 0) +
      (if southWest = true ∧ southEast = false then 1 else 0) +
      (if northWest = true ∧ southWest = false then 1 else 0) +
      (if northEast = true ∧ northWest = false then 1 else 0)
    rises ≤ 2 ∧ (rises = 2 ↔
      (northWest = true ∧ southEast = true ∧ northEast = false ∧ southWest = false) ∨
      (northWest = false ∧ southEast = false ∧ northEast = true ∧ southWest = true)) := by
  decide

/-- What leaves a vertex is decided by the four cells around it. -/
theorem departures_boundary (mask : Mask) (v : Vertex) :
    Edge.departures mask.boundary v ≤ 2 ∧
      (Edge.departures mask.boundary v = 2 ↔ mask.IsSaddle v) := by
  rw [Edge.departures_eq, count_boundary, count_boundary, count_boundary, count_boundary]
  exact rises_of_round _ _ _ _

/-- The boundary of a mask consists of the borders between filled cells and others,
each of them listed once and in one direction only.  Every vertex is left as often
as it is reached, at most twice, and twice exactly where of the four cells around
it two diagonally opposite ones are filled. -/
theorem boundary_exact (mask : Mask) :
    (forall edge, mask.boundary.count edge = if mask.IsBorder edge then 1 else 0) ∧
      Edge.Unreversed mask.boundary ∧
      forall v, Edge.departures mask.boundary v = Edge.arrivals mask.boundary v ∧
        Edge.departures mask.boundary v ≤ 2 ∧
        (Edge.departures mask.boundary v = 2 ↔ mask.IsSaddle v) := by
  refine ⟨fun edge => ?_, mask.unreversed_boundary, fun v => ⟨?_, ?_⟩⟩
  · rw [count_boundary]
    simp only [isBorder_iff]
  · exact mask.balanced_boundary v
  · exact mask.departures_boundary v

end Mask
end BattleMap
