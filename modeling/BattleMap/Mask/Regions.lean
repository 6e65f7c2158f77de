import BattleMap.Mask

namespace BattleMap

/-!
# Regions and holes

Filled cells belong together if a path of filled cells joins them, each sharing
a side with the next.  Unfilled cells are joined more easily: there a common
corner is enough.  A hole is a class of unfilled cells that does not reach the
outside, where the outside is represented by one ring of cells around the grid.

Classes are counted by visiting the filled cells of a mask in reading order.  A
cell that is still filled when it is visited opens a new class, and the whole
class is unfilled before the visit goes on.
-/

namespace Regions

abbrev Cell := Int × Int

def shareSide (a b : Cell) : Bool :=
  (a.1 - b.1).natAbs + (a.2 - b.2).natAbs = 1

/-- Two different cells share a side or a corner. -/
def touch (a b : Cell) : Bool :=
  a ≠ b && (a.1 - b.1).natAbs ≤ 1 && (a.2 - b.2).natAbs ≤ 1

/-- The four cells that share a side with a given one. -/
def sideNeighbours (cell : Cell) : List Cell :=
  [(cell.1 + 1, cell.2), (cell.1, cell.2 + 1), (cell.1 - 1, cell.2), (cell.1, cell.2 - 1)]

/-- The four cells that share only a corner with a given one. -/
def cornerNeighbours (cell : Cell) : List Cell :=
  [(cell.1 + 1, cell.2 + 1), (cell.1 - 1, cell.2 + 1), (cell.1 - 1, cell.2 - 1),
    (cell.1 + 1, cell.2 - 1)]

/-- The eight cells around a given one. -/
def neighbours (cell : Cell) : List Cell :=
  sideNeighbours cell ++ cornerNeighbours cell

theorem mem_sideNeighbours {a b : Cell} : b ∈ sideNeighbours a ↔ shareSide a b = true := by
  obtain ⟨x, y⟩ := a
  obtain ⟨u, v⟩ := b
  simp only [sideNeighbours, shareSide, List.mem_cons, List.not_mem_nil, or_false, Prod.mk.injEq,
    decide_eq_true_eq]
  omega

theorem mem_neighbours {a b : Cell} : b ∈ neighbours a ↔ touch a b = true := by
  obtain ⟨x, y⟩ := a
  obtain ⟨u, v⟩ := b
  simp only [neighbours, sideNeighbours, cornerNeighbours, touch, List.mem_append, List.mem_cons,
    List.not_mem_nil, or_false, Prod.mk.injEq, Bool.and_eq_true, decide_eq_true_eq, ne_eq]
  omega

def present (mask : Mask) (cells : List Cell) : List Cell :=
  cells.filter fun cell => mask.covers cell.1 cell.2

def without (mask : Mask) (cells : List Cell) : Mask :=
  cells.foldl (fun mask cell => mask.clear cell.1.toNat cell.2.toNat) mask

theorem count_cells_without_le (mask : Mask) (cells : List Cell) :
    (without mask cells).cells.count true ≤ mask.cells.count true := by
  induction cells generalizing mask with
  | nil => exact Nat.le_refl _
  | cons cell rest fewer => exact Nat.le_trans (fewer _) (Mask.count_cells_clear_le mask _ _)

theorem count_cells_without_present_lt {mask : Mask} {cells : List Cell}
    (anyPresent : present mask cells ≠ []) :
    (without mask (present mask cells)).cells.count true < mask.cells.count true := by
  match filled : present mask cells with
  | [] => exact absurd filled anyPresent
  | cell :: rest =>
      have listed : cell ∈ present mask cells := filled ▸ List.mem_cons_self
      have covered := (List.mem_filter.mp listed).2
      simp only [Mask.covers, Bool.and_eq_true] at covered
      exact Nat.lt_of_le_of_lt (count_cells_without_le _ rest)
        (Mask.count_cells_clear_lt covered.2)

/-- Unfill every filled cell that a path of filled cells joins to the front.  The
cells of the front are unfilled already; their filled neighbours become the new
front when they are unfilled. -/
def spread (adjacent : Cell -> List Cell) : (front : List Cell) -> Mask -> Mask
  | [], mask => mask
  | cell :: front, mask =>
      let joined := present mask (adjacent cell)
      spread adjacent (joined ++ front) (without mask joined)
termination_by front mask => (mask.cells.count true, front.length)
decreasing_by
  by_cases none : present mask (adjacent cell) = []
  · rw [none]
    exact Prod.Lex.right _ (Nat.lt_succ_self _)
  · exact Prod.Lex.left _ _ (count_cells_without_present_lt none)

/-- The mask without a cell and all cells of its class. -/
def withoutClass (adjacent : Cell -> List Cell) (mask : Mask) (cell : Cell) : Mask :=
  spread adjacent [cell] (without mask [cell])

/-- The state of a count: the classes that have been met are unfilled and counted. -/
structure Tally where
  left : Mask
  classes : Nat

/-- A cell that is still filled opens a new class. -/
def Tally.visit (adjacent : Cell -> List Cell) (tally : Tally) (cell : Cell) : Tally :=
  match tally with
  | ⟨left, classes⟩ =>
      if left.covers cell.1 cell.2 then ⟨withoutClass adjacent left cell, classes + 1⟩
      else ⟨left, classes⟩

/-- The number of classes of filled cells. -/
def count (adjacent : Cell -> List Cell) (mask : Mask) : Nat :=
  (mask.filledCells.foldl (fun tally cell => tally.visit adjacent ((cell.1 : Int), (cell.2 : Int)))
    (⟨mask, 0⟩ : Tally)).classes

end Regions

namespace Mask

open Regions

/-- The unfilled cells, together with a ring of cells around the grid. -/
def surroundings (mask : Mask) : Mask :=
  ofFn (mask.width + 2) (mask.height + 2) fun x y => !mask.covers ((x : Int) - 1) ((y : Int) - 1)

/-- The number of regions of filled cells. -/
def regionCount (mask : Mask) : Nat :=
  Regions.count sideNeighbours mask

/-- The number of holes: the classes of unfilled cells without that of the ring. -/
def holeCount (mask : Mask) : Nat :=
  Regions.count neighbours (withoutClass neighbours mask.surroundings (0, 0))

end Mask
end BattleMap
