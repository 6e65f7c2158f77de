import Mathlib.Algebra.GroupWithZero.Nat
import Mathlib.Data.List.Nodup
import BattleMap.Outline.Boundary
import BattleMap.Proofs.Lattice

namespace BattleMap

open Regions (Cell)

/-!
# What the boundary of a mask consists of

An edge belongs to the boundary exactly if the cell on its right is filled and
the cell on its left is not.  It is listed once, and never together with its
reverse.  Nothing else about the order or the making of the list is needed
later, so the grid border is nowhere a special case: a cell beyond it is just
not filled.
-/

namespace Mask

variable {mask : Mask}

/-- Whether a cell of the plane is filled. -/
def fills (mask : Mask) (cell : Cell) : Bool :=
  mask.covers cell.1 cell.2

theorem fills_eq_true_iff {cell : Cell} :
    mask.fills cell = true ↔ 0 ≤ cell.1 ∧ 0 ≤ cell.2 ∧
      mask.filled cell.1.toNat cell.2.toNat = true := by
  simp only [fills, covers, Bool.and_eq_true, decide_eq_true_eq, and_assoc]

@[simp] theorem fills_natCast (x y : Nat) : mask.fills ((x : Int), (y : Int)) = mask.filled x y := by
  simp [fills, covers]

theorem lt_of_filled {x y : Nat} (isFilled : mask.filled x y = true) :
    x < mask.width ∧ y < mask.height := by
  by_contra outside
  rw [filled_eq_false_of_not_lt outside] at isFilled
  exact absurd isFilled Bool.false_ne_true

/-- A filled cell lies on the grid. -/
theorem bounds_of_fills {cell : Cell} (isFilled : mask.fills cell = true) :
    0 ≤ cell.1 ∧ cell.1 < mask.width ∧ 0 ≤ cell.2 ∧ cell.2 < mask.height := by
  rcases fills_eq_true_iff.mp isFilled with ⟨right, below, isFilled⟩
  have inside := lt_of_filled isFilled
  omega

/-- A property of cells that is passed on from right to left and holds beyond the
grid holds everywhere. -/
theorem forall_cells (mask : Mask) {property : Cell -> Prop}
    (beyond : forall x y : Int, mask.width ≤ x -> property (x, y))
    (step : forall edge : Edge, edge.direction = .south -> property edge.leftCell ->
      property edge.rightCell) (cell : Cell) : property cell := by
  rcases cell with ⟨x, y⟩
  have fromRight : forall steps : Nat, property (mask.width - steps, y) := by
    intro steps
    induction steps with
    | zero => exact beyond _ y (by omega)
    | succ steps nearer =>
        have place : (mask.width : Int) - (steps + 1 : Nat) = mask.width - steps - 1 := by omega
        rw [place]
        exact step ⟨⟨mask.width - steps, y⟩, .south⟩ rfl nearer
  rcases Int.le_total mask.width x with far | near
  · exact beyond x y far
  · have place : x = mask.width - (mask.width - x).toNat := by omega
    rw [place]
    exact fromRight _

theorem mem_filledCells {cell : Nat × Nat} :
    cell ∈ mask.filledCells ↔ mask.filled cell.1 cell.2 = true := by
  rcases cell with ⟨x, y⟩
  simp only [filledCells, List.mem_flatMap, List.mem_range, List.mem_map, List.mem_filter,
    Prod.mk.injEq]
  constructor
  · rintro ⟨row, _, column, ⟨_, isFilled⟩, rfl, rfl⟩
    exact isFilled
  · intro isFilled
    have inside := lt_of_filled isFilled
    exact ⟨y, inside.2, x, ⟨inside.1, isFilled⟩, rfl, rfl⟩

theorem nodup_filledCells (mask : Mask) : mask.filledCells.Nodup := by
  unfold filledCells
  apply List.nodup_flatMap.mpr
  constructor
  · intro y _
    apply (List.nodup_range.filter _).map
    intro x x' same
    exact congrArg Prod.fst same
  · apply List.nodup_range.imp
    intro y y' different cell first second
    rcases List.mem_map.mp first with ⟨x, _, rfl⟩
    rcases List.mem_map.mp second with ⟨x', _, same⟩
    exact different (congrArg Prod.snd same).symm

/-- The boundary edges of a cell run around it wherever its neighbour is not filled. -/
theorem mem_cellBoundary {cell : Nat × Nat} {edge : Edge} :
    edge ∈ mask.cellBoundary cell ↔
      edge.rightCell = ((cell.1 : Int), (cell.2 : Int)) ∧ mask.fills edge.leftCell = false := by
  rcases cell with ⟨x, y⟩
  rcases edge with ⟨⟨u, v⟩, direction⟩
  have side : forall (covered : Bool) (listed : Edge),
      ((⟨⟨u, v⟩, direction⟩ : Edge) ∈ if covered = true then [] else [listed]) ↔
        (⟨⟨u, v⟩, direction⟩ : Edge) = listed ∧ covered = false := by
    intro covered listed
    cases covered <;> simp
  simp only [cellBoundary, List.mem_append, side, Edge.mk.injEq, Point.mk.injEq]
  cases direction <;>
    simp only [Edge.rightCell, Edge.leftCell, fills, Prod.mk.injEq, reduceCtorEq, and_true, and_false,
      false_and, or_false, false_or]
  · constructor
    · rintro ⟨⟨rfl, rfl⟩, free⟩
      exact ⟨⟨rfl, rfl⟩, free⟩
    · rintro ⟨⟨rfl, rfl⟩, free⟩
      exact ⟨⟨rfl, rfl⟩, free⟩
  · constructor
    · rintro ⟨⟨rfl, rfl⟩, free⟩
      exact ⟨⟨by omega, rfl⟩, free⟩
    · rintro ⟨⟨column, rfl⟩, free⟩
      have column : u = x + 1 := by omega
      subst column
      exact ⟨⟨rfl, rfl⟩, free⟩
  · constructor
    · rintro ⟨⟨rfl, rfl⟩, free⟩
      exact ⟨⟨by omega, by omega⟩, by rw [Int.add_sub_cancel]; exact free⟩
    · rintro ⟨⟨column, row⟩, free⟩
      have column : u = x + 1 := by omega
      have row : v = y + 1 := by omega
      subst column row
      rw [Int.add_sub_cancel] at free
      exact ⟨⟨rfl, rfl⟩, free⟩
  · constructor
    · rintro ⟨⟨rfl, rfl⟩, free⟩
      exact ⟨⟨rfl, by omega⟩, by rw [Int.add_sub_cancel]; exact free⟩
    · rintro ⟨⟨rfl, row⟩, free⟩
      have row : v = y + 1 := by omega
      subst row
      rw [Int.add_sub_cancel] at free
      exact ⟨⟨rfl, rfl⟩, free⟩

/-- The boundary runs with filled cells on its right and unfilled ones on its left. -/
theorem mem_boundary {edge : Edge} :
    edge ∈ mask.boundary ↔
      mask.fills edge.rightCell = true ∧ mask.fills edge.leftCell = false := by
  simp only [boundary, List.mem_flatMap, mem_cellBoundary]
  constructor
  · rintro ⟨cell, listed, beside, free⟩
    rw [beside, fills_natCast]
    exact ⟨mem_filledCells.mp listed, free⟩
  · rintro ⟨isFilled, free⟩
    rcases fills_eq_true_iff.mp isFilled with ⟨right, below, isFilled⟩
    refine ⟨(edge.rightCell.1.toNat, edge.rightCell.2.toNat), mem_filledCells.mpr isFilled, ?_, free⟩
    exact Prod.ext (Int.toNat_of_nonneg right).symm (Int.toNat_of_nonneg below).symm

theorem nodup_cellBoundary (mask : Mask) (cell : Nat × Nat) : (mask.cellBoundary cell).Nodup := by
  unfold cellBoundary
  dsimp only
  split <;> split <;> split <;> split <;> simp

/-- Every boundary edge is listed once. -/
theorem nodup_boundary (mask : Mask) : mask.boundary.Nodup := by
  unfold boundary
  apply List.nodup_flatMap.mpr
  constructor
  · intro cell _
    exact mask.nodup_cellBoundary cell
  · apply (nodup_filledCells mask).imp
    intro cell cell' different edge first second
    have beside := (mem_cellBoundary.mp first).1.symm.trans (mem_cellBoundary.mp second).1
    apply different
    exact Prod.ext (Int.ofNat.inj (congrArg Prod.fst beside))
      (Int.ofNat.inj (congrArg Prod.snd beside))

theorem length_grid (mask : Mask) : mask.grid.length = mask.width * mask.height := by
  unfold grid
  rw [List.length_flatMap]
  simp [Nat.mul_comm]

/-- What at most counts `most` on the boundary edges of each cell is bounded on
the whole boundary. -/
theorem sum_boundary_le (mask : Mask) (f : Edge -> Nat) (most : Nat)
    (each : forall cell, ((mask.cellBoundary cell).map f).sum ≤ most) :
    (mask.boundary.map f).sum ≤ most * (mask.width * mask.height) := by
  have cells : forall list : List (Nat × Nat),
      ((list.flatMap mask.cellBoundary).map f).sum ≤ most * list.length := by
    intro list
    induction list with
    | nil => exact Nat.zero_le _
    | cons cell rest later =>
        have first := each cell
        rw [List.flatMap_cons, List.map_append, List.sum_append_nat, List.length_cons, Nat.mul_succ]
        omega
  calc
    (mask.boundary.map f).sum ≤ most * mask.filledCells.length := cells _
    _ ≤ most * mask.grid.length := by
      rw [filledCells_eq_filter]
      exact Nat.mul_le_mul_left most (List.length_filter_le _ _)
    _ = most * (mask.width * mask.height) := by rw [length_grid]

/-- Every cell of the grid has at most four boundary edges. -/
theorem length_boundary_le (mask : Mask) :
    mask.boundary.length ≤ 4 * (mask.width * mask.height) := by
  have counted := mask.sum_boundary_le (fun _ => 1) 4 fun cell => by
    unfold cellBoundary
    dsimp only
    split <;> split <;> split <;> split <;> simp
  rw [List.map_const', List.sum_replicate_nat, Nat.mul_one] at counted
  exact counted

/-- No boundary edge is listed together with its reverse. -/
theorem reverse_not_mem_boundary {edge : Edge} (member : edge ∈ mask.boundary) :
    edge.reverse ∉ mask.boundary := by
  intro reversed
  have right := (mem_boundary.mp reversed).1
  rw [Edge.rightCell_reverse, (mem_boundary.mp member).2] at right
  exact absurd right Bool.false_ne_true

end Mask
end BattleMap
