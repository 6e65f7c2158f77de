import Mathlib.Algebra.Order.BigOperators.Group.List
import Mathlib.Algebra.Order.Ring.Nat
import BattleMap.Proofs.Area
import BattleMap.Proofs.Compilation

namespace BattleMap

/-!
# Areas of loops that can be painted

A sheet of pixels has to be held in memory, and on every sheet that can be held
the areas of all loops are exact.  The number of pixels alone bounds the areas,
but not the sums on the way to them, which depend on where the loop lies.  For
these the area is measured along one axis at a time.  Up to the corner of a box
at either end of the way it is twice the sum of the upright sides, each with its
length and its distance from the left border, and also the sum of the level
sides with their distances from the top.  On each axis the lengths add up to at
most two for each cell, so the shorter side of the grid bounds the sums.
-/

namespace Loop

/-- How far a side runs down or up. -/
def rise (a b : Vertex) : Nat :=
  (b.y - a.y).natAbs

/-- How far a side runs to the right or to the left. -/
def run (a b : Vertex) : Nat :=
  (b.x - a.x).natAbs

theorem natAbs_sweep_le {width : Nat} {a b : Vertex} (column : 0 ≤ a.x ∧ a.x ≤ width) :
    (sweep a b).natAbs ≤ width * rise a b := by
  unfold sweep rise
  split
  · rw [Int.natAbs_mul]
    exact Nat.mul_le_mul_right _ (by omega)
  · exact Nat.zero_le _

/-- What the boxes at its ends add to some sides. -/
def boxSum (sides : List (Vertex × Vertex)) : Int :=
  (sides.map fun side => side.2.box - side.1.box).sum

private theorem boxSum_of_zip {last : Vertex} (rest : List Vertex) (first : Vertex)
    {before after : List (Vertex × Vertex)} {side : Vertex × Vertex}
    (split : (first :: rest).zip (rest ++ [last]) = before ++ side :: after) :
    boxSum (before ++ [side]) = side.2.box - first.box := by
  induction rest generalizing first before with
  | nil =>
      cases before with
      | nil =>
          cases split
          exact Int.add_zero _
      | cons other before => simp at split
  | cons second rest later =>
      cases before with
      | nil =>
          cases split
          exact Int.add_zero _
      | cons other before =>
          have parts := List.cons.inj split
          have onward := later second parts.2
          unfold boxSum at onward ⊢
          rw [List.cons_append, List.map_cons, List.sum_cons, onward, ← parts.1]
          dsimp only
          omega

/-- Along the first sides of a loop the boxes at the corners cancel, but for the
first and the last one. -/
theorem exists_boxSum {loop : Loop Int} {before after : List (Vertex × Vertex)}
    {side : Vertex × Vertex} (split : loop.sides = before ++ side :: after) :
    Exists fun first => first ∈ loop.points ∧
      boxSum (before ++ [side]) = side.2.box - first.box := by
  rcases loop with ⟨_ | ⟨first, rest⟩⟩
  · simp [sides] at split
  · exact ⟨first, List.mem_cons_self, boxSum_of_zip rest first split⟩

end Loop

namespace Traced

variable {mask : Mask} {chains : List Chain} {chain : Chain} {edge : Edge}

/-- What is counted on the edges of a chain is counted on the whole boundary. -/
theorem sum_map_le_boundary (traced : Traced mask chains) (listed : chain ∈ chains)
    (f : Edge -> Nat) : (chain.map f).sum ≤ (mask.boundary.map f).sum := by
  rw [← (traced.edges.map f).sum_eq]
  exact ((List.sublist_flatten_of_mem listed).map f).sum_le_sum fun _ _ => Nat.zero_le _

/-- A length that adds up along straight lines, and comes to at most `most` on the
boundary edges of each cell, is bounded on the sides of a loop. -/
theorem sum_sides_le (traced : Traced mask chains) (listed : chain ∈ chains)
    (f : Vertex -> Vertex -> Nat) (still : forall v, f v v = 0)
    (adds : forall (direction : Direction) (count : Nat) (v : Vertex),
      f v (direction.along (count + 1) v) =
        f v (direction.along count v) +
          f (direction.along count v) (direction.along (count + 1) v)) (most : Nat)
    (each : forall cell,
      ((mask.cellBoundary cell).map fun edge => f edge.start edge.finish).sum ≤ most) :
    (chain.toLoop.sides.map fun side => f side.1 side.2).sum ≤ most * (mask.width * mask.height) := by
  have units := Chain.sum_sides_toLoop (traced.closed listed) (traced.nonempty chain listed)
    (fun a b => (f a b : Int)) (fun v => congrArg Nat.cast (still v))
    fun direction count v => by rw [adds, Nat.cast_add]
  have cast : forall {α : Type} (list : List α) (g : α -> Nat),
      (list.map fun entry => (g entry : Int)).sum = ((list.map g).sum : Nat) := by
    intro α list g
    rw [Nat.cast_list_sum, List.map_map]
    rfl
  rw [cast, cast, Int.natCast_inj] at units
  rw [units]
  exact Nat.le_trans (traced.sum_map_le_boundary listed _) (mask.sum_boundary_le _ most each)

/-- The upright sides of a loop have at most two units for each cell. -/
theorem sum_rise_le (traced : Traced mask chains) (listed : chain ∈ chains) :
    (chain.toLoop.sides.map fun side => Loop.rise side.1 side.2).sum ≤
      2 * (mask.width * mask.height) := by
  apply traced.sum_sides_le listed
  · intro v
    simp [Loop.rise]
  · intro direction count v
    cases direction <;> simp only [Loop.rise, Direction.along, Direction.dy] <;> omega
  · intro cell
    unfold Mask.cellBoundary
    dsimp only
    split <;> split <;> split <;> split <;> simp [Loop.rise, Edge.finish, Direction.step]

/-- The level sides of a loop have at most two units for each cell. -/
theorem sum_run_le (traced : Traced mask chains) (listed : chain ∈ chains) :
    (chain.toLoop.sides.map fun side => Loop.run side.1 side.2).sum ≤
      2 * (mask.width * mask.height) := by
  apply traced.sum_sides_le listed
  · intro v
    simp [Loop.run]
  · intro direction count v
    cases direction <;> simp only [Loop.run, Direction.along, Direction.dx] <;> omega
  · intro cell
    unfold Mask.cellBoundary
    dsimp only
    split <;> split <;> split <;> split <;> simp [Loop.run, Edge.finish, Direction.step]

theorem box_le (traced : Traced mask chains) (listed : chain ∈ chains) {v : Vertex}
    (member : v ∈ chain.toLoop.points) : 0 ≤ v.box ∧ v.box ≤ mask.width * mask.height := by
  have bounds := traced.bounds_of_mem_points listed member
  exact ⟨Int.mul_nonneg bounds.1.1 bounds.2.1,
    Int.mul_le_mul bounds.1.2 bounds.2.2 bounds.2.1 (Int.natCast_nonneg _)⟩

/-- The terms of some sides, with the boxes at their ends, are bounded by the
lengths of the sides if each of them is. -/
private theorem natAbs_sum_cross_add_le {sides : List (Vertex × Vertex)} (sign : Int)
    (length : Vertex × Vertex -> Nat) {most : Nat}
    (each : forall side, side ∈ sides ->
      (Loop.cross side.1 side.2 + sign * (side.2.box - side.1.box)).natAbs ≤ most * length side) :
    ((sides.map fun side => Loop.cross side.1 side.2).sum + sign * Loop.boxSum sides).natAbs ≤
      most * (sides.map length).sum := by
  induction sides with
  | nil => simp [Loop.boxSum]
  | cons side rest later =>
      have first := each side List.mem_cons_self
      have others := later fun side member => each side (List.mem_cons_of_mem _ member)
      unfold Loop.boxSum at others ⊢
      rw [List.map_cons, List.map_cons, List.map_cons, List.sum_cons, List.sum_cons, List.sum_cons,
        Nat.mul_add, Int.mul_add]
      omega

/-- Up to the boxes at its ends an upright side counts twice its length, as often
as it is away from the left border, and a level side nothing. -/
theorem natAbs_cross_add_box_le (traced : Traced mask chains) (listed : chain ∈ chains)
    {side : Vertex × Vertex} (member : side ∈ chain.toLoop.sides) :
    (Loop.cross side.1 side.2 + 1 * (side.2.box - side.1.box)).natAbs ≤
      2 * mask.width * Loop.rise side.1 side.2 := by
  have bounds := traced.bounds_of_mem_points listed (List.of_mem_zip member).1
  rw [Int.one_mul, Loop.cross_add_box (traced.straight_of_mem_sides listed member), Int.natAbs_mul,
    Nat.mul_assoc]
  exact Nat.mul_le_mul_left 2 (Loop.natAbs_sweep_le bounds.1)

/-- The other way round it is the level side that counts. -/
theorem natAbs_cross_sub_box_le (traced : Traced mask chains) (listed : chain ∈ chains)
    {side : Vertex × Vertex} (member : side ∈ chain.toLoop.sides) :
    (Loop.cross side.1 side.2 + -1 * (side.2.box - side.1.box)).natAbs ≤
      2 * mask.height * Loop.run side.1 side.2 := by
  have bounds := traced.bounds_of_mem_points listed (List.of_mem_zip member).1
  have straight := traced.straight_of_mem_sides listed member
  rcases side with ⟨⟨x, y⟩, ⟨u, v⟩⟩
  unfold Loop.cross Point.box Loop.run
  dsimp only at bounds straight ⊢
  rcases straight with rfl | rfl
  · have value : x * v - x * y + -1 * (x * v - x * y) = 0 := by ring
    rw [value]
    exact Nat.zero_le _
  · have value : x * y - u * y + -1 * (u * y - x * y) = -(2 * y * (u - x)) := by ring
    rw [value, Int.natAbs_neg, Int.natAbs_mul]
    exact Nat.mul_le_mul_right _ (by omega)

/-- The terms of some sides of a loop add up to what the shorter side of the grid
allows, if the boxes at the ends of the sides cancel but for two of them. -/
theorem natAbs_sum_cross_le_min (traced : Traced mask chains) (listed : chain ∈ chains)
    {sides : List (Vertex × Vertex)} (part : sides.Sublist chain.toLoop.sides)
    (boxes : (Loop.boxSum sides).natAbs ≤ mask.width * mask.height) :
    (sides.map fun side => Loop.cross side.1 side.2).sum.natAbs ≤
      (4 * min mask.width mask.height + 1) * (mask.width * mask.height) := by
  have shorter : forall length : Vertex × Vertex -> Nat,
      (sides.map length).sum ≤ (chain.toLoop.sides.map length).sum :=
    fun length => (part.map length).sum_le_sum fun _ _ => Nat.zero_le _
  have uprights := natAbs_sum_cross_add_le 1 _ fun side member =>
    traced.natAbs_cross_add_box_le listed (part.subset member)
  have levels := natAbs_sum_cross_add_le (-1) _ fun side member =>
    traced.natAbs_cross_sub_box_le listed (part.subset member)
  have rises := Nat.mul_le_mul_left (2 * mask.width)
    ((shorter _).trans (traced.sum_rise_le listed))
  have runs := Nat.mul_le_mul_left (2 * mask.height)
    ((shorter _).trans (traced.sum_run_le listed))
  have double : forall n : Nat, 2 * n * (2 * (mask.width * mask.height)) =
      4 * n * (mask.width * mask.height) := fun n => by ring
  rw [double] at rises runs
  have apart : forall a b : Int, a.natAbs ≤ (a + 1 * b).natAbs + b.natAbs ∧
      a.natAbs ≤ (a + -1 * b).natAbs + b.natAbs := fun a b => by omega
  rw [Nat.add_mul, Nat.one_mul]
  rcases Nat.le_total mask.width mask.height with narrow | low
  · rw [Nat.min_eq_left narrow]
    exact (apart _ _).1.trans (Nat.add_le_add (uprights.trans rises) boxes)
  · rw [Nat.min_eq_right low]
    exact (apart _ _).2.trans (Nat.add_le_add (levels.trans runs) boxes)

/-- The same holds of a single side and of the first sides of a loop. -/
theorem natAbs_sum_cross_first_le (traced : Traced mask chains) (listed : chain ∈ chains)
    {before after : List (Vertex × Vertex)} {side : Vertex × Vertex}
    (split : chain.toLoop.sides = before ++ side :: after) :
    (Loop.cross side.1 side.2).natAbs ≤
        (4 * min mask.width mask.height + 1) * (mask.width * mask.height) ∧
      ((before ++ [side]).map fun side => Loop.cross side.1 side.2).sum.natAbs ≤
        (4 * min mask.width mask.height + 1) * (mask.width * mask.height) := by
  have whole : chain.toLoop.sides = (before ++ [side]) ++ after := by
    rw [split, List.append_assoc]
    rfl
  have member : side ∈ chain.toLoop.sides := by
    rw [split]
    exact List.mem_append_right _ List.mem_cons_self
  have start := traced.box_le listed (List.of_mem_zip member).1
  have finish := traced.box_le listed (Loop.mem_rotated.mp (List.of_mem_zip member).2)
  have small : forall v : Vertex, 0 ≤ v.box ∧ v.box ≤ mask.width * mask.height ->
      (side.2.box - v.box).natAbs ≤ mask.width * mask.height := by
    intro v box
    rw [← Int.ofNat_le, Int.natCast_mul]
    omega
  constructor
  · have alone := traced.natAbs_sum_cross_le_min listed (List.singleton_sublist.mpr member)
      (by
        unfold Loop.boxSum
        rw [List.map_singleton, List.sum_singleton]
        exact small _ start)
    rw [List.map_singleton, List.sum_singleton] at alone
    exact alone
  · rcases Loop.exists_boxSum split with ⟨first, firstMember, boxes⟩
    refine traced.natAbs_sum_cross_le_min listed ?_ ?_
    · rw [whole]
      exact List.sublist_append_left _ _
    · rw [boxes]
      exact small _ (traced.box_le listed firstMember)

end Traced

/-! ## Loops in pixels -/

namespace Loop

theorem cross_scaled (scale : Int) (a b : Vertex) :
    cross (a.map (· * scale)) (b.map (· * scale)) = cross a b * (scale * scale) := by
  unfold cross Point.map
  ring

theorem sum_cross_scaled (scale : Int) (sides : List (Vertex × Vertex)) :
    ((sides.map fun side => (side.1.map (· * scale), side.2.map (· * scale))).map
        fun side => cross side.1 side.2).sum =
      (sides.map fun side => cross side.1 side.2).sum * (scale * scale) := by
  rw [List.map_map, ← List.sum_map_mul_right]
  exact congrArg List.sum (List.map_congr_left fun side _ => cross_scaled scale side.1 side.2)

theorem shoelace_magnified (scale : Int) (loop : Loop Int) :
    (loop.magnified scale).shoelace = loop.shoelace * (scale * scale) := by
  rw [shoelace_eq_sum, shoelace_eq_sum, ← sum_cross_scaled]
  unfold magnified
  rw [sides_map]

/-- A loop in pixels runs around a hole exactly if the loop itself does. -/
theorem shoelace_magnified_neg_iff {scale : Nat} (positive : 0 < scale) (loop : Loop Int) :
    (loop.magnified scale).shoelace < 0 ↔ loop.shoelace < 0 := by
  have square : 0 < (scale : Int) * scale :=
    Int.mul_pos (Int.natCast_pos.mpr positive) (Int.natCast_pos.mpr positive)
  rw [shoelace_magnified]
  constructor
  · intro negative
    by_contra nonneg
    exact absurd (Int.mul_nonneg (Int.not_lt.mp nonneg) (Int.le_of_lt square))
      (Int.not_le.mpr negative)
  · exact fun negative => Int.mul_neg_of_neg_of_pos negative square

/-- The sums of a loop in pixels are exact if the multiples of its own sums are. -/
theorem hasExactSums_magnified_iff {scale : Int} {loop : Loop Int} :
    (loop.magnified scale).HasExactSums ↔
      forall before side after, loop.sides = before ++ side :: after ->
        Area.isExact (cross side.1 side.2 * (scale * scale)) = true ∧
          Area.isExact (((before ++ [side]).map fun side => cross side.1 side.2).sum *
            (scale * scale)) = true := by
  unfold HasExactSums magnified
  rw [sides_map]
  constructor
  · intro exact before side after split
    have here := exact _ _ _ (by rw [split, List.map_append, List.map_cons])
    rw [cross_scaled, ← List.map_singleton
      (f := fun side : Vertex × Vertex => (side.1.map (· * scale), side.2.map (· * scale))),
      ← List.map_append, sum_cross_scaled] at here
    exact here
  · intro exact before side after split
    rcases List.map_eq_append_iff.mp split with ⟨first, rest, sides, rfl, later⟩
    rcases List.map_eq_cons_iff.mp later with ⟨one, others, rfl, rfl, _⟩
    rw [cross_scaled, ← List.map_singleton
      (f := fun side : Vertex × Vertex => (side.1.map (· * scale), side.2.map (· * scale))),
      ← List.map_append, sum_cross_scaled]
    exact exact _ _ _ sides

end Loop

/-- The shorter side of a sheet of pixels that can be held in memory is short
enough for the sums on the way to the areas. -/
private theorem area_bound {width height scale : Nat} (wide : 2 ≤ scale)
    (fits : 4 * (width * scale) * (height * scale) ≤ Memory.available) :
    (4 * min width height + 1) * (width * height) * (scale * scale) ≤ Number.exactLimit := by
  have memory : Memory.available = 2 ^ 36 := rfl
  have limit : Number.exactLimit = 2 ^ 53 := rfl
  have pixels : (width * scale) * (height * scale) ≤ 2 ^ 34 := by
    rw [memory, Nat.mul_assoc] at fits
    omega
  have side : min width height * scale ≤ 2 ^ 17 := by
    have square : (min width height * scale) * (min width height * scale) ≤ 2 ^ 17 * 2 ^ 17 :=
      calc
        _ ≤ (width * scale) * (height * scale) := Nat.mul_le_mul
          (Nat.mul_le_mul_right _ (Nat.min_le_left _ _)) (Nat.mul_le_mul_right _ (Nat.min_le_right _ _))
        _ ≤ 2 ^ 34 := pixels
        _ = 2 ^ 17 * 2 ^ 17 := by decide
    exact Nat.mul_self_le_mul_self_iff.mp square
  have quadruple : 4 * min width height ≤ 2 ^ 18 := by
    have doubled := Nat.mul_le_mul_left (min width height) wide
    omega
  calc
    _ = (4 * min width height + 1) * ((width * scale) * (height * scale)) := by ring
    _ ≤ (2 ^ 18 + 1) * 2 ^ 34 := Nat.mul_le_mul (Nat.succ_le_succ quadruple) pixels
    _ ≤ Number.exactLimit := by
      rw [limit]
      decide

/-- On a sheet of pixels that can be held in memory the areas of all loops are
exact. -/
theorem Traced.hasExactSums_magnified {mask : Mask} {chains : List Chain} {chain : Chain}
    (traced : Traced mask chains) (listed : chain ∈ chains) {scale : Nat} (wide : 2 ≤ scale)
    (fits : 4 * (mask.width * scale) * (mask.height * scale) ≤ Memory.available) :
    (chain.toLoop.magnified scale).HasExactSums := by
  have exact : forall n : Int,
      n.natAbs ≤ (4 * min mask.width mask.height + 1) * (mask.width * mask.height) ->
        Area.isExact (n * (scale * scale)) = true := by
    intro n small
    apply decide_eq_true
    rw [Int.natAbs_mul, ← Int.natCast_mul, Int.natAbs_natCast]
    exact (Nat.mul_le_mul_right _ small).trans (area_bound wide fits)
  apply Loop.hasExactSums_magnified_iff.mpr
  intro before side after split
  have bounds := traced.natAbs_sum_cross_first_le listed split
  exact ⟨exact _ bounds.1, exact _ bounds.2⟩

end BattleMap
