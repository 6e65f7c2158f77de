import BattleMap.Proofs.Boundary
import BattleMap.Proofs.Outline
import BattleMap.Proofs.Translation

namespace BattleMap

/-!
# Masks in a larger grid

A mask that is placed in a larger grid, with unfilled cells all around, has the same
outline there, moved to its place.  So the border of a grid is to the tracer what
unfilled cells are, on all four sides, and the order of the loops does not depend on
where they lie.

The filled cells of the larger grid are those of the mask, moved and in the same
order, and each of them has its boundary edges moved with it.  What is left is that
moved edges are joined into moved loops.
-/

/-- Only the middle part of a range counts where the places before and behind it give nothing. -/
theorem flatMap_range_middle {α : Type} {f : Nat -> List α} {before count behind : Nat}
    (outside : forall i, i < before ∨ before + count ≤ i -> f i = []) :
    (List.range (before + count + behind)).flatMap f =
      (List.range count).flatMap fun i => f (before + i) := by
  have first : (List.range before).flatMap f = [] :=
    List.flatMap_eq_nil_iff.mpr fun i member => outside i (.inl (List.mem_range.mp member))
  have last : (List.range behind).flatMap (fun i => f (before + count + i)) = [] :=
    List.flatMap_eq_nil_iff.mpr fun i _ => outside _ (.inr (Nat.le_add_right _ _))
  rw [List.range_add, List.range_add, List.flatMap_append, List.flatMap_append, first,
    List.flatMap_map, List.flatMap_map, last, List.nil_append, List.append_nil]

namespace Mask

/-- The mask in a grid that has more columns on its left and on its right and more
rows above and below, all of them unfilled. -/
def framed (mask : Mask) (left top right bottom : Nat) : Mask :=
  .ofFn (left + mask.width + right) (top + mask.height + bottom) fun x y =>
    left ≤ x && top ≤ y && mask.filled (x - left) (y - top)

variable (mask : Mask) (left top right bottom : Nat)

theorem filled_framed (x y : Nat) : (mask.framed left top right bottom).filled x y =
    (decide (left ≤ x) && decide (top ≤ y) && mask.filled (x - left) (y - top)) := by
  unfold framed
  rw [filled_ofFn, Bool.eq_iff_iff]
  simp only [Bool.and_eq_true, decide_eq_true_eq]
  constructor
  · exact And.right
  · intro inside
    have bounds := lt_of_filled inside.2
    exact ⟨by omega, inside⟩

/-- A cell of the mask is filled in its new place as it was before. -/
theorem covers_framed (x y : Int) :
    (mask.framed left top right bottom).covers (x + left) (y + top) = mask.covers x y := by
  unfold covers
  rw [filled_framed, Bool.eq_iff_iff]
  simp only [Bool.and_eq_true, decide_eq_true_eq]
  constructor
  · rintro ⟨⟨_, _⟩, ⟨_, _⟩, isFilled⟩
    have column : (x + left).toNat - left = x.toNat := by omega
    have row : (y + top).toNat - top = y.toNat := by omega
    rw [column, row] at isFilled
    exact ⟨by omega, isFilled⟩
  · rintro ⟨⟨_, _⟩, isFilled⟩
    have column : (x + left).toNat - left = x.toNat := by omega
    have row : (y + top).toNat - top = y.toNat := by omega
    rw [column, row]
    exact ⟨by omega, by omega, isFilled⟩

/-- The filled cells of a row, from left to right. -/
def filledRow (mask : Mask) (y : Nat) : List (Nat × Nat) :=
  ((List.range mask.width).filter fun x => mask.filled x y).map fun x => (x, y)

theorem filledCells_eq_flatMap_filledRow (mask : Mask) :
    mask.filledCells = (List.range mask.height).flatMap mask.filledRow := rfl

theorem filledRow_eq_flatMap (mask : Mask) (y : Nat) : mask.filledRow y =
    (List.range mask.width).flatMap fun x => if mask.filled x y then [(x, y)] else [] := by
  unfold filledRow
  induction List.range mask.width with
  | nil => rfl
  | cons x rest same =>
      rw [List.flatMap_cons, ← same, List.filter_cons]
      split <;> rfl

variable {mask left top right bottom} in
theorem bounds_of_filled_framed {x y : Nat}
    (isFilled : (mask.framed left top right bottom).filled x y = true) :
    (left ≤ x ∧ x < left + mask.width) ∧ (top ≤ y ∧ y < top + mask.height) := by
  rw [filled_framed] at isFilled
  simp only [Bool.and_eq_true, decide_eq_true_eq] at isFilled
  have inside := lt_of_filled isFilled.2
  omega

variable {mask left top right bottom} in
theorem filledRow_framed_eq_nil {y : Nat} (outside : y < top ∨ top + mask.height ≤ y) :
    (mask.framed left top right bottom).filledRow y = [] := by
  rw [filledRow_eq_flatMap]
  refine List.flatMap_eq_nil_iff.mpr fun x _ => if_neg fun isFilled => ?_
  have inside := (bounds_of_filled_framed isFilled).2
  omega

theorem filledRow_framed (y : Nat) : (mask.framed left top right bottom).filledRow (top + y) =
    (mask.filledRow y).map fun cell => (left + cell.1, top + cell.2) := by
  rw [filledRow_eq_flatMap, filledRow_eq_flatMap, List.map_flatMap]
  change (List.range (left + mask.width + right)).flatMap _ = _
  rw [flatMap_range_middle]
  · congr 1
    funext x
    rw [filled_framed]
    simp only [Nat.le_add_right, decide_true, Bool.true_and, Nat.add_sub_cancel_left]
    split <;> rfl
  · intro x outside
    refine if_neg fun isFilled => ?_
    have inside := (bounds_of_filled_framed isFilled).1
    omega

/-- The filled cells of the larger grid are those of the mask in their new places. -/
theorem filledCells_framed : (mask.framed left top right bottom).filledCells =
    mask.filledCells.map fun cell => (left + cell.1, top + cell.2) := by
  rw [filledCells_eq_flatMap_filledRow, filledCells_eq_flatMap_filledRow, List.map_flatMap]
  change (List.range (top + mask.height + bottom)).flatMap _ = _
  rw [flatMap_range_middle fun y outside => filledRow_framed_eq_nil outside]
  congr 1
  funext y
  exact mask.filledRow_framed left top right bottom y

/-- Every cell of the mask has the boundary edges it had, moved with it. -/
theorem cellBoundary_framed (cell : Nat × Nat) :
    (mask.framed left top right bottom).cellBoundary (left + cell.1, top + cell.2) =
      (mask.cellBoundary cell).map (·.moved ⟨left, top⟩) := by
  have covers : forall x y u v : Int, u = x + left -> v = y + top ->
      (mask.framed left top right bottom).covers u v = mask.covers x y := by
    rintro x y _ _ rfl rfl
    exact mask.covers_framed left top right bottom x y
  unfold cellBoundary
  simp only [Nat.cast_add]
  rw [covers cell.1 (cell.2 - 1) _ _ (by omega) (by omega),
    covers (cell.1 + 1) cell.2 _ _ (by omega) (by omega),
    covers cell.1 (cell.2 + 1) _ _ (by omega) (by omega),
    covers (cell.1 - 1) cell.2 _ _ (by omega) (by omega)]
  simp only [List.map_append, apply_ite (List.map _), List.map_nil, List.map_cons, Edge.moved,
    Point.moved, Int.add_assoc, Int.add_comm]

theorem boundary_framed : (mask.framed left top right bottom).boundary =
    mask.boundary.map (·.moved ⟨left, top⟩) := by
  unfold boundary
  rw [filledCells_framed, List.flatMap_map, List.map_flatMap]
  congr 1
  funext cell
  exact mask.cellBoundary_framed left top right bottom cell

/-- A mask has the same outline in a larger grid, loop for loop and corner for corner, only
that every corner is moved to the place of the mask. -/
theorem outline_framed : Exists fun loops => mask.outline = .ok loops ∧
    (mask.framed left top right bottom).outline = .ok (loops.map (·.moved ⟨left, top⟩)) := by
  rcases mask.exists_traced with ⟨chains, traced, _⟩
  have alike := Loop.ofEdges_moved mask.boundary ⟨left, top⟩
  rw [← boundary_framed] at alike
  change Outcome.Alike _ _ mask.outline (mask.framed left top right bottom).outline at alike
  rw [traced] at alike
  generalize (mask.framed left top right bottom).outline = framed at alike
  cases alike with
  | ok moved => exact ⟨_, traced, congrArg Except.ok moved⟩

end Mask
end BattleMap
