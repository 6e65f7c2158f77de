import BattleMap.Proofs.Outline

namespace BattleMap

open Regions (Cell)

/-!
# The outline of a mask draws the mask

The winding number of the whole boundary at a cell is one if the cell is filled
and zero otherwise.  In a row this is a telescoping sum: on the right of the
grid nothing is counted, and between two neighbouring cells the boundary has an
upright edge exactly if one of them is filled and the other is not, directed so
that the winding number changes as the filling does.
-/

namespace Mask

variable {mask : Mask}

/-- The filling of a cell as a number. -/
def level (mask : Mask) (cell : Cell) : Int :=
  if mask.fills cell then 1 else 0

theorem count_boundary (edge : Edge) :
    mask.boundary.count edge =
      if mask.fills edge.rightCell = true ∧ mask.fills edge.leftCell = false then 1 else 0 := by
  rw [mask.nodup_boundary.count]
  simp only [mem_boundary]

/-- Along an edge the boundary is used as the filling changes across it. -/
theorem count_boundary_sub (edge : Edge) :
    (mask.boundary.count edge : Int) - mask.boundary.count edge.reverse =
      mask.level edge.rightCell - mask.level edge.leftCell := by
  rw [count_boundary, count_boundary, Edge.rightCell_reverse, Edge.leftCell_reverse]
  unfold level
  cases mask.fills edge.rightCell <;> cases mask.fills edge.leftCell <;> rfl

theorem winding_boundary_of_beyond {x : Int} (beyond : mask.width ≤ x) (y : Int) :
    Chain.winding mask.boundary (x, y) = mask.level (x, y) := by
  have outside : mask.fills (x, y) = false := by
    apply Bool.eq_false_iff.mpr
    intro isFilled
    have inside := bounds_of_fills isFilled
    omega
  unfold level
  rw [outside, if_neg Bool.false_ne_true]
  apply Chain.winding_eq_zero
  intro edge member
  have bounds := bounds_of_mem_boundary member
  exact Or.inl (by omega)

theorem winding_boundary_sub (mask : Mask) (x y : Int) :
    Chain.winding mask.boundary (x - 1, y) - Chain.winding mask.boundary (x, y) =
      mask.level (x - 1, y) - mask.level (x, y) := by
  rw [Chain.winding_sub_winding_of_row]
  exact count_boundary_sub ⟨⟨x, y⟩, .south⟩

/-- The boundary winds once around every filled cell and around no other. -/
theorem winding_boundary (mask : Mask) (cell : Cell) :
    Chain.winding mask.boundary cell = mask.level cell := by
  revert cell
  refine mask.forall_cells ?_ ?_
  · exact fun x y beyond => winding_boundary_of_beyond beyond y
  · intro edge south nearer
    rcases edge with ⟨⟨x, y⟩, direction⟩
    cases south
    have change := mask.winding_boundary_sub x y
    simp only [Edge.leftCell, Edge.rightCell] at nearer ⊢
    omega

end Mask

/-- The loops of an outline wind once around each filled cell and around no other. -/
theorem Traced.windingSum_loops_natCast {mask : Mask} {chains : List Chain}
    (traced : Traced mask chains) (x y : Nat) :
    Loop.windingSum (chains.map Chain.toLoop) ((x : Int), (y : Int)) =
      if mask.filled x y then 1 else 0 := by
  rw [traced.windingSum_loops, Mask.winding_boundary]
  unfold Mask.level
  rw [Mask.fills_natCast]

/-- Tracing a mask succeeds, and its loops wind exactly once around every filled
cell and around no unfilled one.  The grid of winding numbers, and with it the
mask of the loops, can fail only if it is too large to be held in memory. -/
theorem Mask.windingGrid_outline (mask : Mask) :
    Exists fun loops : List (Loop Int) => mask.outline = .ok loops ∧
      (Exists fun uprights => uprightsOf (loops.map Loop.toNumbers) = .ok uprights ∧
        forall x y, x < mask.width -> y < mask.height ->
          windingNumber uprights mask.width mask.height x y = if mask.filled x y then 1 else 0) ∧
      windingGrid (loops.map Loop.toNumbers) (mask.width : Int) (mask.height : Int) =
        ((Memory.checkGrid windingBytes (mask.width : Int) (mask.height : Int)).map fun _ =>
          mask.rows.map fun row => row.map fun isFilled => if isFilled then 1 else 0) ∧
      Mask.ofLoops (loops.map Loop.toNumbers) (mask.width : Int) (mask.height : Int) =
        (Memory.checkGrid windingBytes (mask.width : Int) (mask.height : Int)).map fun _ => mask := by
  rcases mask.exists_traced with ⟨chains, outlined, traced⟩
  refine ⟨chains.map Chain.toLoop, outlined, draws_toNumbers traced.isNonneg_of_mem_loops ?_⟩
  intro x y _ _
  exact traced.windingSum_loops_natCast x y

end BattleMap
