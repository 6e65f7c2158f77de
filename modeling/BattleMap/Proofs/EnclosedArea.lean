import Mathlib.Algebra.BigOperators.Ring.Finset
import BattleMap.Proofs.Orientation
import BattleMap.Proofs.RoundTrip

namespace BattleMap

/-!
# Areas and winding grids

The program has two ways to tell how much loops enclose, the shoelace sums and the
grid of winding numbers.  On loops that run along rows and columns of the grid they
agree: the areas add up to the sum of all winding numbers of the grid.  Nothing is
asked of the loops beyond that.  Where a loop crosses itself or runs around a cell
several times, both ways count the cell as often, and with the same sign.

What the grid shows is the winding numbers in its counters, and a loop that runs around
a cell too often for a counter makes it show something else.  This takes more corners
than a counter can count.

The loops of an outline wind once around the filled cells and around no others, so
their areas add up to the number of these.
-/

/-- The sum of a grid of numbers that is given row by row. -/
def tableSum (table : List (List Int)) : Int :=
  (table.map List.sum).sum

theorem tableSum_windingTable (loops : List (Loop Int)) (width height : Nat) :
    tableSum (windingTable loops width height) =
      ∑ y ∈ Finset.range height, ∑ x ∈ Finset.range width,
        Loop.windingSum loops ((x : Int), (y : Int)) := by
  unfold tableSum windingTable cellTable
  rw [List.map_map]
  rfl

namespace Loop

theorem IsRectilinear.isNonneg {loop : Loop Int} {width height : Nat}
    (rectilinear : loop.IsRectilinear width height) {v : Vertex} (member : v ∈ loop.points) :
    v.IsNonneg :=
  have bounds := rectilinear.within v member
  ⟨bounds.1.1, bounds.2.1⟩

/-- Twice the sum of the winding numbers of several loops is the sum of their
shoelace sums. -/
theorem sum_shoelace {loops : List (Loop Int)} {width height : Nat}
    (rectilinear : forall loop, loop ∈ loops -> loop.IsRectilinear width height) :
    (loops.map Loop.shoelace).sum = 2 * tableSum (windingTable loops width height) := by
  rw [tableSum_windingTable]
  induction loops with
  | nil =>
      have none : forall cell, windingSum [] cell = 0 := fun _ => rfl
      simp only [none, Finset.sum_const_zero]
      rfl
  | cons loop rest later =>
      have here := (rectilinear loop List.mem_cons_self).shoelace_eq_sum_winding
      have others := later fun other member => rectilinear other (List.mem_cons_of_mem _ member)
      have parts : forall cell, windingSum (loop :: rest) cell =
          loop.winding cell + windingSum rest cell := fun _ => rfl
      simp only [parts, Finset.sum_add_distrib]
      rw [List.map_cons, List.sum_cons, here, others, Int.mul_add]

/-- The numbers of a table add up to the area of the loop, also as the program finds it
where its sums are exact. -/
structure Encloses (loop : Loop Int) (table : List (List Int)) : Prop where
  shoelace : loop.shoelace = 2 * tableSum table
  area : loop.HasExactSums -> loop.toNumbers.area = .ok (.halves (2 * tableSum table))

theorem IsRectilinear.encloses {loop : Loop Int} {width height : Nat}
    (rectilinear : loop.IsRectilinear width height) :
    loop.Encloses (windingTable [loop] width height) := by
  have whole := sum_shoelace (List.forall_mem_singleton.mpr rectilinear)
  rw [List.map_singleton, List.sum_singleton] at whole
  refine ⟨whole, fun exact => ?_⟩
  rw [area_toNumbers exact, whole]

end Loop

namespace Mask

/-- The filled cells, counted row by row. -/
theorem filledCount_eq_sum (mask : Mask) :
    (mask.filledCount : Int) = ∑ y ∈ Finset.range mask.height, ∑ x ∈ Finset.range mask.width,
      if mask.filled x y then 1 else 0 := by
  have row : forall y, ((((List.range mask.width).filter fun x => mask.filled x y).map
      fun x => (x, y)).length : Int) =
        ∑ x ∈ Finset.range mask.width, if mask.filled x y then 1 else 0 := by
    intro y
    have decided : (fun x => mask.filled x y) = fun x => decide (mask.filled x y = true) :=
      funext fun x => Bool.decide_eq_true.symm
    rw [List.length_map, Finset.sum_boole, decided]
    rfl
  unfold filledCount filledCells
  rw [List.length_flatMap, Nat.cast_list_sum, List.map_map]
  exact congrArg List.sum (List.map_congr_left fun y _ => row y)

end Mask

namespace Traced

variable {mask : Mask} {chains : List Chain}

theorem isRectilinear_of_mem_loops (traced : Traced mask chains) {loop : Loop Int}
    (member : loop ∈ chains.map Chain.toLoop) : loop.IsRectilinear mask.width mask.height := by
  rcases List.mem_map.mp member with ⟨chain, listed, rfl⟩
  exact traced.isRectilinear_toLoop listed

/-- The shoelace sums of an outline add up to twice the number of filled cells. -/
theorem sum_shoelace_loops (traced : Traced mask chains) :
    ((chains.map Chain.toLoop).map Loop.shoelace).sum = 2 * (mask.filledCount : Int) := by
  rw [Loop.sum_shoelace fun _ => traced.isRectilinear_of_mem_loops, tableSum_windingTable,
    mask.filledCount_eq_sum]
  simp only [traced.windingSum_loops_natCast]

end Traced

/-- The area of a loop on a grid whose sides run along rows and columns is the sum of
its winding numbers, and the program finds what the counters show of them, unless the
grid is too large to be held in memory.  The counters show the winding numbers themselves
if these are in their range, as they are for every loop with fewer corners than a counter
can count.  The sums in binary64 are exact on every grid that is not excessively large.
Tracing a mask succeeds with such loops, and together they have the area of the filled
cells. -/
theorem Loop.encloses_windingGrid :
    (forall (loop : Loop Int) (width height : Nat), loop.IsRectilinear width height ->
      Exists fun uprights => uprightsOf [loop.toNumbers] = .ok uprights ∧
        windingGrid [loop.toNumbers] (width : Int) (height : Int) =
          ((Memory.checkGrid windingBytes (width : Int) (height : Int)).map fun _ =>
            windingRows uprights width height) ∧
        windingRows uprights width height =
          (windingTable [loop] width height).map (List.map wrapped) ∧
        loop.Encloses (windingTable [loop] width height) ∧
        (FitCounters [loop] -> loop.Encloses (windingRows uprights width height)) ∧
        (loop.points.length < windingLimit -> FitCounters [loop]) ∧
        (loop.points.length * (width * height) ≤ Number.exactLimit -> loop.HasExactSums)) ∧
      forall mask : Mask, Exists fun loops : List (Loop Int) => mask.outline = .ok loops ∧
        (loops.map shoelace).sum = 2 * (mask.filledCount : Int) ∧
        ((forall loop, loop ∈ loops -> loop.HasExactSums) ->
          (loops.map toNumbers).mapM area = .ok (loops.map fun loop => .halves loop.shoelace)) ∧
        forall loop, loop ∈ loops -> loop.IsRectilinear mask.width mask.height ∧
          (4 * (mask.width * mask.height) * (mask.width + mask.height) ≤ Number.exactLimit ->
            loop.HasExactSums) := by
  constructor
  · intro loop width height rectilinear
    have nonneg : forall other, other ∈ [loop] -> forall v, v ∈ other.points -> v.IsNonneg :=
      List.forall_mem_singleton.mpr fun _ => rectilinear.isNonneg
    refine ⟨_, uprightsOf_toNumbers [loop], windingGrid_toNumbers [loop] width height, ?_,
      rectilinear.encloses, ?_, ?_, rectilinear.hasExactSums⟩
    · rw [windingRows_flatMap_latticeUprights nonneg]
      exact (map_cellTable wrapped _ _ _).symm
    · intro fit
      rw [windingRows_eq_windingTable nonneg fun x y _ _ => fit (x, y)]
      exact rectilinear.encloses
    · exact fun few => fitCounters_of_few few
  · intro mask
    rcases mask.exists_traced with ⟨chains, outlined, traced⟩
    refine ⟨chains.map Chain.toLoop, outlined, traced.sum_shoelace_loops, ?_, ?_⟩
    · intro exact
      rw [List.mapM_map]
      exact Outcome.mapM_eq_ok fun loop member => area_toNumbers (exact loop member)
    · intro loop member
      refine ⟨traced.isRectilinear_of_mem_loops member, ?_⟩
      rcases List.mem_map.mp member with ⟨chain, listed, rfl⟩
      exact traced.hasExactSums listed

/-- A loop that crosses itself: it runs around four cells clockwise and around one cell
the other way. -/
def knot : Loop Int :=
  ⟨[⟨0, 1⟩, ⟨3, 1⟩, ⟨3, 3⟩, ⟨1, 3⟩, ⟨1, 0⟩, ⟨0, 0⟩]⟩

/-- A wall around a single unfilled cell. -/
def wall : Mask :=
  .ofFn 3 3 fun x y => !(x = 1 && y = 1)

theorem Loop.encloses_knot :
    (knot.IsRectilinear 3 3 ∧ windingGrid [knot.toNumbers] (3 : Int) 3 =
        .ok [[-1, 0, 0], [0, 1, 1], [0, 1, 1]] ∧ knot.toNumbers.area = .ok (.halves 6)) ∧
      Exists fun loops : List (Loop Int) => wall.outline = .ok loops ∧
        (loops.map shoelace).sum = 16 ∧
        (loops.map toNumbers).mapM area = .ok (loops.map fun loop => .halves loop.shoelace) := by
  have rectilinear : knot.IsRectilinear 3 3 := by decide
  rcases encloses_windingGrid.1 knot 3 3 rectilinear with
    ⟨uprights, found, grid, _, _, encloses, few, small⟩
  have sides : uprights = [⟨3, 1, 3, true⟩, ⟨1, 0, 3, false⟩, ⟨0, 0, 1, true⟩] :=
    Except.ok.inj (found.symm.trans (by decide))
  subst sides
  have table : windingRows [⟨3, 1, 3, true⟩, ⟨1, 0, 3, false⟩, ⟨0, 0, 1, true⟩] 3 3 =
      [[-1, 0, 0], [0, 1, 1], [0, 1, 1]] := by decide
  have encloses := encloses (few (by decide))
  rw [table] at grid encloses
  rcases encloses_windingGrid.2 wall with ⟨loops, outlined, whole, areas, each⟩
  have count : wall.filledCount = 8 := by decide
  refine ⟨⟨rectilinear, grid, encloses.area (small (by decide))⟩, loops, outlined, ?_, ?_⟩
  · rw [whole, count]
    rfl
  · exact areas fun loop member => (each loop member).2 (by decide)

end BattleMap
