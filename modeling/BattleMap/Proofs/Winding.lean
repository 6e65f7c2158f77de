import BattleMap.Geometry.Winding
import BattleMap.Proofs.Circulation
import BattleMap.Proofs.Outcome

namespace BattleMap

open Regions (Cell)

/-!
# Winding numbers of lattice loops

`windingGrid` works with uprights of loops of numbers and with ranges of rows
and columns.  For loops on the lattice whose corners are not below zero it comes
down to one sum for each cell: every side counts its `crossing` at the cell, and a
counter shows the sum.  The only thing that can go wrong is that the grid cannot be
held in memory.

A loop crosses the ray of a cell at most once for each of its corners.  So the counters
show the sums themselves unless there are more corners than a counter can count.
-/

namespace Number

@[simp] theorem same_whole (a b : Int) : (whole a).same (whole b) = decide (a = b) := by
  simp only [same, order, Option.some.injEq, Int.compare_eq_eq]

@[simp] theorem less_whole (a b : Int) : (whole a).less (whole b) = decide (a < b) := by
  simp only [less, order, Option.some.injEq, Int.compare_eq_lt]

@[simp] theorem least_whole (a b : Int) : (whole a).least (whole b) = whole (min a b) := by
  simp only [least, less_whole, decide_eq_true_eq]
  split_ifs with less
  · rw [Int.min_eq_right (Int.le_of_lt less)]
  · rw [Int.min_eq_left (Int.not_lt.mp less)]

@[simp] theorem greatest_whole (a b : Int) : (whole a).greatest (whole b) = whole (max a b) := by
  simp only [greatest, less_whole, decide_eq_true_eq]
  split_ifs with less
  · rw [Int.max_eq_right (Int.le_of_lt less)]
  · rw [Int.max_eq_left (Int.not_lt.mp less)]

end Number

/-- A point that is not above or on the left of the origin. -/
def Point.IsNonneg (v : Vertex) : Prop :=
  0 ≤ v.x ∧ 0 ≤ v.y

namespace Upright

/-- The upright between two lattice points. -/
def between? (a b : Vertex) : Option Upright :=
  if a.x = b.x ∧ a.y ≠ b.y then some ⟨a.x, min a.y b.y, max a.y b.y, a.y < b.y⟩ else none

theorem ofSide?_whole (a b : Vertex) :
    ofSide? (a.map Number.whole, b.map Number.whole) = .ok (between? a b) := by
  unfold ofSide? between?
  simp only [Point.map, Number.same_whole, Number.less_whole, Number.least_whole,
    Number.greatest_whole, Bool.and_eq_true, Bool.not_eq_true',
    decide_eq_true_eq, decide_eq_false_iff_not]
  split_ifs <;> rfl

/-- What the upright of a side adds at a cell is the crossing of the side. -/
theorem countsFor_between? {a b : Vertex} {width height x y : Nat} (nonnegA : a.IsNonneg)
    (nonnegB : b.IsNonneg) (column : x < width) (row : y < height) :
    ((between? a b).elim 0 fun upright => upright.countAt width height x y) =
      crossing ((x : Int), (y : Int)) a b := by
  rcases a with ⟨ax, ay⟩
  rcases b with ⟨bx, bY⟩
  rcases nonnegA with ⟨nonnegAx, nonnegAy⟩
  rcases nonnegB with ⟨_, nonnegBy⟩
  simp only at nonnegAx nonnegAy nonnegBy
  have shape : between? ⟨ax, ay⟩ ⟨bx, bY⟩ =
      if ax = bx ∧ ay ≠ bY then some ⟨ax, min ay bY, max ay bY, ay < bY⟩ else none := rfl
  rw [crossing_mk, shape]
  by_cases isUpright : ax = bx ∧ ay ≠ bY
  · have low : 0 ≤ min ay bY := by omega
    have high : 0 ≤ max ay bY := by omega
    rw [if_pos isUpright, Option.elim_some]
    unfold countAt countsFor passesRow sign
    rw [Axis.contains_span_of_nonneg row low high,
      Axis.contains_span_of_nonneg column (Int.le_refl 0) nonnegAx]
    simp only [Bool.and_eq_true, decide_eq_true_eq]
    split_ifs <;> omega
  · rw [if_neg isUpright, Option.elim_none]
    split_ifs <;> omega

end Upright

namespace Loop

/-- The winding number of a lattice loop at a cell. -/
def winding (loop : Loop Int) (cell : Cell) : Int :=
  (loop.sides.map fun side => crossing cell side.1 side.2).sum

/-- The winding numbers of several loops at a cell, added up. -/
def windingSum (loops : List (Loop Int)) (cell : Cell) : Int :=
  (loops.map fun loop => loop.winding cell).sum

/-- The upright sides of a lattice loop. -/
def latticeUprights (loop : Loop Int) : List Upright :=
  loop.sides.filterMap fun side => Upright.between? side.1 side.2

theorem sides_map (f : α -> β) (loop : Loop α) :
    (loop.map f).sides = loop.sides.map fun side => (side.1.map f, side.2.map f) := by
  unfold sides map
  rw [← map_rotated, List.zip_map]
  rfl

theorem mem_points_of_mem_sides {loop : Loop α} {side : Point α × Point α}
    (member : side ∈ loop.sides) : side.1 ∈ loop.points ∧ side.2 ∈ loop.points := by
  have both := List.of_mem_zip member
  exact ⟨both.1, mem_rotated.mp both.2⟩

theorem uprights_toNumbers (loop : Loop Int) : loop.toNumbers.uprights = .ok loop.latticeUprights := by
  have found : loop.toNumbers.sides.mapM Upright.ofSide? =
      .ok (loop.sides.map fun side => Upright.between? side.1 side.2) := by
    unfold toNumbers
    rw [sides_map, List.mapM_map]
    exact Outcome.mapM_eq_ok fun side _ => Upright.ofSide?_whole side.1 side.2
  unfold uprights
  rw [found]
  change Except.ok _ = Except.ok _
  rw [List.filterMap_map]
  rfl

theorem uprightsOf_toNumbers (loops : List (Loop Int)) :
    uprightsOf (loops.map toNumbers) = .ok (loops.flatMap latticeUprights) := by
  unfold uprightsOf
  rw [List.mapM_map]
  have found : loops.mapM (uprights ∘ toNumbers) = .ok (loops.map latticeUprights) :=
    Outcome.mapM_eq_ok fun loop _ => uprights_toNumbers loop
  rw [found]
  change Except.ok (loops.map latticeUprights).flatten = _
  rw [List.flatMap_def]

theorem windingCount_append (a b : List Upright) (width height x y : Nat) :
    windingCount (a ++ b) width height x y =
      windingCount a width height x y + windingCount b width height x y := by
  unfold windingCount
  rw [List.map_append, ← List.sum_eq_foldr, ← List.sum_eq_foldr, ← List.sum_eq_foldr,
    List.sum_append]

theorem windingCount_latticeUprights {loop : Loop Int} {width height x y : Nat}
    (nonneg : forall v, v ∈ loop.points -> v.IsNonneg) (column : x < width) (row : y < height) :
    windingCount loop.latticeUprights width height x y = loop.winding ((x : Int), (y : Int)) := by
  have general : forall sides : List (Vertex × Vertex),
      (forall side, side ∈ sides -> side.1.IsNonneg ∧ side.2.IsNonneg) ->
      windingCount (sides.filterMap fun side => Upright.between? side.1 side.2) width height x y =
        (sides.map fun side => crossing ((x : Int), (y : Int)) side.1 side.2).sum := by
    intro sides
    induction sides with
    | nil => intro _; rfl
    | cons side rest later =>
        intro nonneg
        have first := nonneg side List.mem_cons_self
        have counted := Upright.countsFor_between? first.1 first.2 column row
        have others := later fun other member => nonneg other (List.mem_cons_of_mem _ member)
        rw [List.map_cons, List.sum_cons, ← counted, ← others, List.filterMap_cons]
        cases Upright.between? side.1 side.2 with
        | none => exact (Int.zero_add _).symm
        | some upright => rfl
  apply general
  intro side member
  have ends := mem_points_of_mem_sides member
  exact ⟨nonneg _ ends.1, nonneg _ ends.2⟩

theorem windingCount_flatMap_latticeUprights {loops : List (Loop Int)} {width height x y : Nat}
    (nonneg : forall loop, loop ∈ loops -> forall v, v ∈ loop.points -> v.IsNonneg)
    (column : x < width) (row : y < height) :
    windingCount (loops.flatMap latticeUprights) width height x y =
      windingSum loops ((x : Int), (y : Int)) := by
  induction loops with
  | nil => rfl
  | cons loop rest later =>
      unfold windingSum
      rw [List.flatMap_cons, windingCount_append, List.map_cons, List.sum_cons,
        windingCount_latticeUprights (nonneg loop List.mem_cons_self) column row,
        later fun other member => nonneg other (List.mem_cons_of_mem _ member)]
      rfl

theorem windingNumber_flatMap_latticeUprights {loops : List (Loop Int)} {width height x y : Nat}
    (nonneg : forall loop, loop ∈ loops -> forall v, v ∈ loop.points -> v.IsNonneg)
    (column : x < width) (row : y < height) :
    windingNumber (loops.flatMap latticeUprights) width height x y =
      wrapped (windingSum loops ((x : Int), (y : Int))) := by
  rw [windingNumber_eq_wrapped, windingCount_flatMap_latticeUprights nonneg column row]

/-! ## The range of the counters -/

/-- How many corners loops have together. -/
def cornerCount (loops : List (Loop Int)) : Nat :=
  (loops.map fun loop => loop.points.length).sum

/-- No winding number of the loops leaves the range of a counter. -/
def FitCounters (loops : List (Loop Int)) : Prop :=
  forall cell, IsCountable (windingSum loops cell)

theorem natAbs_sum_le {bound : Nat} (values : List Int)
    (small : forall value, value ∈ values -> value.natAbs ≤ bound) :
    values.sum.natAbs ≤ values.length * bound := by
  induction values with
  | nil => exact Nat.zero_le _
  | cons value rest later =>
      have first := small value List.mem_cons_self
      have others := later fun value member => small value (List.mem_cons_of_mem _ member)
      rw [List.sum_cons, List.length_cons, Nat.add_mul, Nat.one_mul]
      omega

theorem natAbs_crossing_le (cell : Cell) (a b : Vertex) : (crossing cell a b).natAbs ≤ 1 := by
  unfold crossing
  split_ifs <;> decide

/-- A loop winds around a cell at most as often as it has corners. -/
theorem natAbs_winding_le (loop : Loop Int) (cell : Cell) :
    (loop.winding cell).natAbs ≤ loop.points.length := by
  have term : forall value, value ∈ loop.sides.map (fun side => crossing cell side.1 side.2) ->
      value.natAbs ≤ 1 := by
    intro value member
    rcases List.mem_map.mp member with ⟨side, _, rfl⟩
    exact natAbs_crossing_le cell side.1 side.2
  have most := natAbs_sum_le _ term
  rw [List.length_map, length_sides, Nat.mul_one] at most
  exact most

theorem natAbs_windingSum_le (loops : List (Loop Int)) (cell : Cell) :
    (windingSum loops cell).natAbs ≤ cornerCount loops := by
  unfold cornerCount
  induction loops with
  | nil => exact Nat.le_refl 0
  | cons loop rest later =>
      have first := loop.natAbs_winding_le cell
      have parts : windingSum (loop :: rest) cell = loop.winding cell + windingSum rest cell := rfl
      rw [parts, List.map_cons, List.sum_cons]
      omega

/-- The corners have to be very many before a counter leaves its range. -/
theorem fitCounters_of_few {loops : List (Loop Int)} (few : cornerCount loops < windingLimit) :
    FitCounters loops := by
  intro cell
  have most := natAbs_windingSum_le loops cell
  unfold IsCountable
  omega

end Loop

/-! ## Whole grids -/

namespace Memory

theorem eq_of_sideLength_eq_ok {length result : Int} (fits : sideLength length = .ok result) :
    result = length := by
  rcases Outcome.bind_eq_ok.mp fits with ⟨_, same, fits⟩
  rcases Outcome.bind_eq_ok.mp fits with ⟨_, _, done⟩
  cases same
  exact (Except.ok.inj done).symm

/-- A grid that fits is laid out with the size that was asked for. -/
theorem eq_of_checkGrid_eq_ok {bytes : Nat} {width height : Int} {size : Nat × Nat}
    (fits : checkGrid bytes width height = .ok size) : size = (width.toNat, height.toNat) := by
  rcases Outcome.bind_eq_ok.mp fits with ⟨rows, checkedRows, sized⟩
  rcases Outcome.bind_eq_ok.mp sized with ⟨columns, checkedColumns, laidOut⟩
  have sameRows := eq_of_sideLength_eq_ok checkedRows
  have sameColumns := eq_of_sideLength_eq_ok checkedColumns
  subst sameRows sameColumns
  dsimp only at laidOut
  by_cases negative : (decide (columns < 0) || decide (rows < 0)) = true
  · rw [if_pos negative] at laidOut
    cases laidOut
  · rw [if_neg negative] at laidOut
    rcases Outcome.bind_eq_ok.mp laidOut with ⟨_, _, held⟩
    by_cases tooLarge : available < bytes * (columns.toNat * rows.toNat)
    · rw [if_pos tooLarge] at held
      cases held
    · rw [if_neg tooLarge] at held
      exact (Except.ok.inj held).symm

end Memory

/-- The numbers of all cells of a grid, row by row. -/
def cellTable (width height : Nat) (value : Cell -> Int) : List (List Int) :=
  (List.range height).map fun (y : Nat) =>
    (List.range width).map fun (x : Nat) => value ((x : Int), (y : Int))

theorem map_cellTable (f : Int -> Int) (width height : Nat) (value : Cell -> Int) :
    (cellTable width height value).map (List.map f) =
      cellTable width height fun cell => f (value cell) := by
  unfold cellTable
  simp only [List.map_map, Function.comp_def]

/-- The winding numbers of lattice loops, row by row. -/
def windingTable (loops : List (Loop Int)) (width height : Nat) : List (List Int) :=
  cellTable width height (Loop.windingSum loops)

theorem cellTable_congr {width height : Nat} {f g : Cell -> Int}
    (same : forall x y : Nat, x < width -> y < height -> f (x, y) = g (x, y)) :
    cellTable width height f = cellTable width height g :=
  List.map_congr_left fun y row => List.map_congr_left fun x column =>
    same x y (List.mem_range.mp column) (List.mem_range.mp row)

/-- The counters show what is left of the sums of the crossings. -/
theorem windingRows_flatMap_latticeUprights {loops : List (Loop Int)}
    (nonneg : forall loop, loop ∈ loops -> forall v, v ∈ loop.points -> v.IsNonneg)
    (width height : Nat) :
    windingRows (loops.flatMap Loop.latticeUprights) width height =
      cellTable width height fun cell => wrapped (Loop.windingSum loops cell) := by
  rw [windingRows_eq_map]
  apply List.map_congr_left
  intro y row
  apply List.map_congr_left
  intro x column
  exact Loop.windingNumber_flatMap_latticeUprights nonneg (List.mem_range.mp column)
    (List.mem_range.mp row)

/-- Where the counters are large enough they show the winding numbers. -/
theorem windingRows_eq_windingTable {loops : List (Loop Int)} {width height : Nat}
    (nonneg : forall loop, loop ∈ loops -> forall v, v ∈ loop.points -> v.IsNonneg)
    (fit : forall x y : Nat, x < width -> y < height -> IsCountable (Loop.windingSum loops (x, y))) :
    windingRows (loops.flatMap Loop.latticeUprights) width height = windingTable loops width height := by
  rw [windingRows_flatMap_latticeUprights nonneg]
  exact cellTable_congr fun x y column row => wrapped_of_isCountable (fit x y column row)

/-- The winding grid of lattice loops can fail only if it does not fit into memory. -/
theorem windingGrid_toNumbers (loops : List (Loop Int)) (width height : Nat) :
    windingGrid (loops.map Loop.toNumbers) (width : Int) (height : Int) =
      (Memory.checkGrid windingBytes (width : Int) (height : Int)).map fun _ =>
        windingRows (loops.flatMap Loop.latticeUprights) width height := by
  unfold windingGrid
  cases checked : Memory.checkGrid windingBytes (width : Int) (height : Int) with
  | error fault => rfl
  | ok size =>
      rw [Memory.eq_of_checkGrid_eq_ok checked, Loop.uprightsOf_toNumbers]
      rfl

/-- A mask is determined by its size and its filled cells. -/
theorem Mask.ofFn_eq {mask : Mask} {fill : Nat -> Nat -> Bool}
    (same : forall x y, x < mask.width -> y < mask.height -> fill x y = mask.filled x y) :
    Mask.ofFn mask.width mask.height fill = mask := by
  rcases mask with ⟨width, height, cells⟩
  unfold Mask.ofFn
  congr 1
  apply Vector.ext
  intro i place
  have wide : 0 < width := Nat.pos_of_mul_pos_right (Nat.zero_lt_of_lt place)
  have column : i % width < width := Nat.mod_lt i wide
  have row : i / width < height := Nat.div_lt_of_lt_mul place
  rw [Vector.getElem_ofFn, same (i % width) (i / width) column row]
  simp only [Mask.filled, column, row, decide_true, Bool.true_and, Nat.div_add_mod',
    Vector.getElem?_eq_getElem place, Option.getD_some]

/-- The mask of lattice loops: the cells whose counters do not show zero. -/
theorem ofLoops_toNumbers {loops : List (Loop Int)} {mask : Mask}
    (nonneg : forall loop, loop ∈ loops -> forall v, v ∈ loop.points -> v.IsNonneg)
    (winds : forall x y, x < mask.width -> y < mask.height ->
      (mask.filled x y = true ↔ wrapped (Loop.windingSum loops ((x : Int), (y : Int))) ≠ 0)) :
    Mask.ofLoops (loops.map Loop.toNumbers) (mask.width : Int) (mask.height : Int) =
      (Memory.checkGrid windingBytes (mask.width : Int) (mask.height : Int)).map fun _ => mask := by
  unfold Mask.ofLoops
  cases checked : Memory.checkGrid windingBytes (mask.width : Int) (mask.height : Int) with
  | error fault => rfl
  | ok size =>
      rw [Memory.eq_of_checkGrid_eq_ok checked, Loop.uprightsOf_toNumbers]
      change Except.ok (Mask.ofUprights _ mask.width mask.height) = Except.ok mask
      apply congrArg
      have filled : forall x y, x < mask.width -> y < mask.height ->
          (Mask.ofUprights (loops.flatMap Loop.latticeUprights) mask.width mask.height).filled x y =
            mask.filled x y := by
        intro x y column row
        rw [Mask.filled_ofUprights _ column row,
          Loop.windingNumber_flatMap_latticeUprights nonneg column row, Bool.eq_iff_iff,
          decide_eq_true_iff]
        exact (winds x y column row).symm
      unfold Mask.ofUprights at filled ⊢
      apply Mask.ofFn_eq
      intro x y column row
      rw [← filled x y column row, Mask.filled_ofFn, decide_eq_true column, decide_eq_true row,
        Bool.true_and, Bool.true_and]

/-- Lattice loops that wind once around the filled cells of a mask and around no
others draw the mask. -/
theorem draws_toNumbers {loops : List (Loop Int)} {mask : Mask}
    (nonneg : forall loop, loop ∈ loops -> forall v, v ∈ loop.points -> v.IsNonneg)
    (winds : forall x y, x < mask.width -> y < mask.height ->
      Loop.windingSum loops ((x : Int), (y : Int)) = if mask.filled x y then 1 else 0) :
    (Exists fun uprights => uprightsOf (loops.map Loop.toNumbers) = .ok uprights ∧
        forall x y, x < mask.width -> y < mask.height ->
          windingNumber uprights mask.width mask.height x y = if mask.filled x y then 1 else 0) ∧
      windingGrid (loops.map Loop.toNumbers) (mask.width : Int) (mask.height : Int) =
        ((Memory.checkGrid windingBytes (mask.width : Int) (mask.height : Int)).map fun _ =>
          mask.rows.map fun row => row.map fun isFilled => if isFilled then 1 else 0) ∧
      Mask.ofLoops (loops.map Loop.toNumbers) (mask.width : Int) (mask.height : Int) =
        (Memory.checkGrid windingBytes (mask.width : Int) (mask.height : Int)).map fun _ => mask := by
  -- One and zero are in the range of the counters.
  have shown : forall x y, x < mask.width -> y < mask.height ->
      wrapped (Loop.windingSum loops ((x : Int), (y : Int))) = if mask.filled x y then 1 else 0 := by
    intro x y column row
    rw [winds x y column row]
    cases mask.filled x y <;> rfl
  refine ⟨⟨_, Loop.uprightsOf_toNumbers loops, ?_⟩, ?_, ?_⟩
  · intro x y column row
    rw [Loop.windingNumber_flatMap_latticeUprights nonneg column row]
    exact shown x y column row
  · have table : (cellTable mask.width mask.height fun cell => wrapped (Loop.windingSum loops cell)) =
        mask.rows.map fun row => row.map fun isFilled => if isFilled then 1 else 0 := by
      unfold cellTable Mask.rows
      rw [List.map_map]
      apply List.map_congr_left
      intro y row
      dsimp only [Function.comp_apply]
      rw [List.map_map]
      apply List.map_congr_left
      intro x column
      exact shown x y (List.mem_range.mp column) (List.mem_range.mp row)
    rw [windingGrid_toNumbers, windingRows_flatMap_latticeUprights nonneg, table]
  · apply ofLoops_toNumbers nonneg
    intro x y column row
    rw [shown x y column row]
    cases mask.filled x y <;> decide

end BattleMap
