import BattleMap.Proofs.EnclosedArea

namespace BattleMap

open Regions (Cell)

/-!
# Winding numbers on two rays

For each cell the grid of winding numbers counts the upright sides on the ray that
leaves the cell to the right.  The ray that leaves it downward meets level sides
instead.  Counting one for those that run to the left, and minus one for those that
run to the right, gives the same number, however often the loops cross themselves
and wherever they go beyond the grid.  So the number belongs to the cell and not to
the ray.

What ties the two rays together is the weight of a corner, which is one in the
quadrant between them and zero elsewhere.  Along an upright side the weight changes
by what the side counts on the first ray, along a level side by what it counts on
the second, with the opposite sign.  Around a closed loop all changes add up to
nothing.
-/

/-- An upright side on the right of a cell runs downward through the row of the cell. -/
def RunsDownBeside (cell : Cell) (a b : Vertex) : Prop :=
  a.x = b.x ∧ cell.1 < a.x ∧ a.y ≤ cell.2 ∧ cell.2 < b.y

/-- A level side below a cell runs to the left through the column of the cell. -/
def RunsLeftBelow (cell : Cell) (a b : Vertex) : Prop :=
  a.y = b.y ∧ cell.2 < a.y ∧ b.x ≤ cell.1 ∧ cell.1 < a.x

instance (cell : Cell) : DecidableRel (RunsDownBeside cell) :=
  fun _ _ => inferInstanceAs (Decidable (_ ∧ _))

instance (cell : Cell) : DecidableRel (RunsLeftBelow cell) :=
  fun _ _ => inferInstanceAs (Decidable (_ ∧ _))

/-- The weight of a corner: one if it lies both to the right of a cell and below it. -/
def quadrant (cell : Cell) (v : Vertex) : Int :=
  if cell.1 < v.x ∧ cell.2 < v.y then 1 else 0

namespace Loop

/-- All sides of the loop run along a row or a column. -/
def IsStraight (loop : Loop Int) : Prop :=
  forall side, side ∈ loop.sides -> side.1.x = side.2.x ∨ side.1.y = side.2.y

instance (loop : Loop Int) : Decidable loop.IsStraight :=
  inferInstanceAs (Decidable (forall side, side ∈ loop.sides -> _ ∨ _))

variable (runs : Vertex -> Vertex -> Prop) [DecidableRel runs]

/-- How many sides of the loops run in a certain way, less those that would do so in
the opposite direction. -/
def balance (loops : List (Loop Int)) : Int :=
  ((loops.flatMap sides).countP fun side => runs side.1 side.2 : Nat) -
    ((loops.flatMap sides).countP fun side => runs side.2 side.1 : Nat)

/-- What one side adds to the balance. -/
def sideBalance (a b : Vertex) : Int :=
  (if runs a b then 1 else 0) - (if runs b a then 1 else 0)

theorem balance_eq_sum (loops : List (Loop Int)) :
    balance runs loops =
      (loops.map fun loop => (loop.sides.map fun side => sideBalance runs side.1 side.2).sum).sum := by
  have counted : forall sides : List (Vertex × Vertex),
      ((sides.countP fun side => runs side.1 side.2 : Nat) : Int) -
          (sides.countP fun side => runs side.2 side.1 : Nat) =
        (sides.map fun side => sideBalance runs side.1 side.2).sum := by
    intro sides
    induction sides with
    | nil => rfl
    | cons side rest later =>
        rw [List.map_cons, List.sum_cons, ← later, List.countP_cons, List.countP_cons]
        unfold sideBalance
        simp only [decide_eq_true_eq, Nat.cast_add, Nat.cast_ite, Nat.cast_one, Nat.cast_zero]
        omega
  unfold balance
  rw [counted, List.map_flatMap, List.flatMap_def, List.sum_flatten, List.map_map]
  rfl

theorem sideBalance_runsDownBeside (cell : Cell) (a b : Vertex) :
    sideBalance (RunsDownBeside cell) a b = crossing cell a b := by
  unfold sideBalance RunsDownBeside crossing
  split_ifs <;> omega

/-- The winding number is the balance on the ray to the right. -/
theorem windingSum_eq_balance (loops : List (Loop Int)) (cell : Cell) :
    windingSum loops cell = balance (RunsDownBeside cell) loops := by
  rw [balance_eq_sum]
  simp only [sideBalance_runsDownBeside]
  rfl

/-- Along a straight side the weight of the quadrant changes by what the side counts
on the one ray or on the other. -/
theorem crossing_add_quadrant (cell : Cell) {a b : Vertex} (straight : a.x = b.x ∨ a.y = b.y) :
    crossing cell a b + quadrant cell a =
      sideBalance (RunsLeftBelow cell) a b + quadrant cell b := by
  unfold crossing sideBalance RunsLeftBelow quadrant
  split_ifs <;> omega

/-- Around a closed loop both rays count the same. -/
theorem winding_eq_sum_below {loop : Loop Int} (straight : loop.IsStraight) (cell : Cell) :
    loop.winding cell =
      (loop.sides.map fun side => sideBalance (RunsLeftBelow cell) side.1 side.2).sum := by
  have sums : (loop.sides.map fun side =>
        crossing cell side.1 side.2 + quadrant cell side.1).sum =
      (loop.sides.map fun side =>
        sideBalance (RunsLeftBelow cell) side.1 side.2 + quadrant cell side.2).sum :=
    congrArg List.sum
      (List.map_congr_left fun side member => crossing_add_quadrant cell (straight side member))
  rw [List.sum_map_add, List.sum_map_add, sum_sides_snd] at sums
  exact add_right_cancel sums

theorem balance_beside_eq_below {loops : List (Loop Int)}
    (straight : forall loop, loop ∈ loops -> loop.IsStraight) (cell : Cell) :
    balance (RunsDownBeside cell) loops = balance (RunsLeftBelow cell) loops := by
  rw [← windingSum_eq_balance, balance_eq_sum]
  exact congrArg List.sum
    (List.map_congr_left fun loop member => winding_eq_sum_below (straight loop member) cell)

end Loop

/-- The winding numbers of a grid count, for each cell, the sides that run downward on
its right less those that run upward there.  For loops with straight sides this is the
number of sides that run to the left below the cell less those that run to the right
there.  The grid has what the counters show of these numbers, and a counter shows a number
exactly if the number is in its range.  For loops that have fewer corners together than a
counter can count, this holds of every cell.  The program fails only if the grid is too
large to be held in memory. -/
theorem windingGrid_eq_balance {loops : List (Loop Int)}
    (straight : forall loop, loop ∈ loops -> loop.IsStraight)
    (nonneg : forall loop, loop ∈ loops -> forall v, v ∈ loop.points -> v.IsNonneg)
    (width height : Nat) :
    Exists fun uprights => uprightsOf (loops.map Loop.toNumbers) = .ok uprights ∧
      windingGrid (loops.map Loop.toNumbers) (width : Int) (height : Int) =
        ((Memory.checkGrid windingBytes (width : Int) (height : Int)).map fun _ =>
          windingRows uprights width height) ∧
      windingRows uprights width height =
        cellTable width height (fun cell => wrapped (Loop.balance (RunsDownBeside cell) loops)) ∧
      windingRows uprights width height =
        cellTable width height (fun cell => wrapped (Loop.balance (RunsLeftBelow cell) loops)) ∧
      (forall x y : Nat, x < width -> y < height ->
        (windingNumber uprights width height x y = Loop.balance (RunsLeftBelow (x, y)) loops ↔
          IsCountable (Loop.balance (RunsLeftBelow (x, y)) loops))) ∧
      ((loops.map fun loop => loop.points.length).sum < windingLimit ->
        (forall cell, IsCountable (Loop.balance (RunsLeftBelow cell) loops)) ∧
          windingRows uprights width height =
            cellTable width height (fun cell => Loop.balance (RunsDownBeside cell) loops) ∧
          windingRows uprights width height =
            cellTable width height (fun cell => Loop.balance (RunsLeftBelow cell) loops)) := by
  have beside : Loop.windingSum loops = fun cell => Loop.balance (RunsDownBeside cell) loops :=
    funext (Loop.windingSum_eq_balance loops)
  have below : Loop.windingSum loops = fun cell => Loop.balance (RunsLeftBelow cell) loops :=
    beside.trans (funext (Loop.balance_beside_eq_below straight))
  have rows := windingRows_flatMap_latticeUprights nonneg width height
  refine ⟨_, Loop.uprightsOf_toNumbers loops, windingGrid_toNumbers loops width height, ?_, ?_, ?_, ?_⟩
  · rw [rows, beside]
  · rw [rows, below]
  · intro x y column row
    rw [Loop.windingNumber_flatMap_latticeUprights nonneg column row, below]
    exact wrapped_eq_self_iff
  · intro few
    have fit := Loop.fitCounters_of_few few
    have whole : windingRows (loops.flatMap Loop.latticeUprights) width height =
        windingTable loops width height :=
      windingRows_eq_windingTable nonneg fun x y _ _ => fit (x, y)
    refine ⟨fun cell => ?_, ?_, ?_⟩
    · have countable := fit cell
      rwa [below] at countable
    · rw [whole, windingTable, beside]
    · rw [whole, windingTable, below]

/-- A loop that crosses itself and reaches past a grid of three columns and two rows. -/
def streamer : Loop Int :=
  ⟨[⟨0, 0⟩, ⟨5, 0⟩, ⟨5, 4⟩, ⟨1, 4⟩, ⟨1, 1⟩, ⟨2, 1⟩, ⟨2, 3⟩, ⟨0, 3⟩]⟩

theorem windingGrid_streamer :
    ((forall loop, loop ∈ [streamer, knot] -> loop.IsStraight) ∧
        forall loop, loop ∈ [streamer, knot] -> forall v, v ∈ loop.points -> v.IsNonneg) ∧
      windingGrid [streamer.toNumbers, knot.toNumbers] (3 : Int) 2 = .ok [[0, 1, 1], [1, 3, 2]] ∧
      Loop.balance (RunsLeftBelow (1, 1)) [streamer, knot] = 3 := by
  have straight : forall loop, loop ∈ [streamer, knot] -> loop.IsStraight := by decide
  have nonneg : forall loop, loop ∈ [streamer, knot] -> forall v, v ∈ loop.points -> v.IsNonneg := by
    unfold Point.IsNonneg
    decide
  rcases windingGrid_eq_balance straight nonneg 3 2 with ⟨uprights, _, grid, _, _, _, exact⟩
  rcases exact (by decide) with ⟨_, _, below⟩
  have numbers : cellTable 3 2 (fun cell => Loop.balance (RunsLeftBelow cell) [streamer, knot]) =
      [[0, 1, 1], [1, 3, 2]] := by decide
  rw [below, numbers] at grid
  exact ⟨⟨straight, nonneg⟩, grid, by decide⟩

end BattleMap
