import Mathlib.Algebra.BigOperators.Group.Finset.Basic
import Mathlib.Algebra.BigOperators.Ring.Finset
import Mathlib.Data.Int.Cast.Lemmas
import Mathlib.Tactic.Ring
import Mathlib.Tactic.SplitIfs
import BattleMap.Proofs.Outline

namespace BattleMap

open Regions (Cell)

/-!
# The area of a loop

The shoelace sum of a loop with straight sides is twice the sum of its winding
numbers over the cells of a grid that holds it, whether the loop crosses itself
or not.  Both are sums over the sides: an upright side at `x` is counted by the
`x` cells on its left in each row that it passes, and up to a potential, the box
between a corner and the origin, its term of the shoelace sum is twice that.
Around a closed loop the potential adds up to nothing.

The program adds the terms in binary64.  That gives the same number as long as
the terms and all the sums on the way are exact, and on a grid of a reasonable
size they are.
-/

/-- The content of the box between the origin and a vertex. -/
def Point.box (v : Vertex) : Int :=
  v.x * v.y

/-- A closed polygon on a grid of the given size whose sides run along rows and
columns.  It may cross itself, run twice along a side, or stand still. -/
structure Loop.IsRectilinear (loop : Loop Int) (width height : Nat) : Prop where
  straight : forall side, side ∈ loop.sides -> side.1.x = side.2.x ∨ side.1.y = side.2.y
  within : forall v, v ∈ loop.points -> (0 ≤ v.x ∧ v.x ≤ width) ∧ 0 ≤ v.y ∧ v.y ≤ height

instance (loop : Loop Int) (width height : Nat) : Decidable (loop.IsRectilinear width height) :=
  decidable_of_iff
    ((forall side, side ∈ loop.sides -> side.1.x = side.2.x ∨ side.1.y = side.2.y) ∧
      forall v, v ∈ loop.points -> (0 ≤ v.x ∧ v.x ≤ width) ∧ 0 ≤ v.y ∧ v.y ≤ height)
    ⟨fun both => ⟨both.1, both.2⟩, fun rectilinear => ⟨rectilinear.straight, rectilinear.within⟩⟩

namespace Loop

/-- The term of a side in the shoelace sum. -/
def cross (a b : Vertex) : Int :=
  a.x * b.y - b.x * a.y

theorem shoelace_eq_sum (loop : Loop Int) :
    loop.shoelace = (loop.sides.map fun side => cross side.1 side.2).sum := by
  unfold shoelace
  rw [List.sum_eq_foldr]
  rfl

theorem cross_self (v : Vertex) : cross v v = 0 :=
  Int.sub_self _

theorem cross_along_succ (direction : Direction) (count : Nat) (v : Vertex) :
    cross v (direction.along (count + 1) v) =
      cross v (direction.along count v) +
        cross (direction.along count v) (direction.along (count + 1) v) := by
  simp only [cross, Direction.along, Int.natCast_add, Int.natCast_one]
  ring

/-- What an upright side passes between itself and the left border, downward
counted positive. -/
def sweep (a b : Vertex) : Int :=
  if a.x = b.x then a.x * (b.y - a.y) else 0

/-- Up to the boxes at its ends a straight side counts twice what it passes. -/
theorem cross_add_box {a b : Vertex} (straight : a.x = b.x ∨ a.y = b.y) :
    cross a b + (b.box - a.box) = 2 * sweep a b := by
  rcases a with ⟨x, y⟩
  rcases b with ⟨u, v⟩
  unfold cross Point.box sweep
  dsimp only at straight ⊢
  rcases straight with rfl | rfl
  · rw [if_pos rfl]
    ring
  · rw [Int.sub_self, Int.mul_zero, ite_self]
    ring

private theorem sum_below {n : Nat} {bound : Int} (nonneg : 0 ≤ bound) :
    (∑ i ∈ Finset.range n, if (i : Int) < bound then (1 : Int) else 0) = min bound n := by
  induction n with
  | zero => exact (Int.min_eq_right nonneg).symm
  | succ n shorter =>
      rw [Finset.sum_range_succ, shorter]
      split <;> omega

private theorem crossing_eq_mul {a b : Vertex} (isUpright : a.x = b.x) (x y : Int) :
    crossing (x, y) a b = (if x < a.x then 1 else 0) *
      ((if y < b.y then 1 else 0) - (if y < a.y then 1 else 0)) := by
  unfold crossing
  simp only [isUpright, true_and]
  split_ifs <;> omega

/-- A side is counted by the cells that it passes. -/
theorem sum_crossing {width height : Nat} {a b : Vertex} (column : 0 ≤ a.x ∧ a.x ≤ width)
    (start : 0 ≤ a.y ∧ a.y ≤ height) (finish : 0 ≤ b.y ∧ b.y ≤ height) :
    (∑ y ∈ Finset.range height, ∑ x ∈ Finset.range width, crossing ((x : Int), (y : Int)) a b) =
      sweep a b := by
  unfold sweep
  by_cases isUpright : a.x = b.x
  · simp only [crossing_eq_mul isUpright, ← Finset.sum_mul]
    rw [← Finset.mul_sum, Finset.sum_sub_distrib, sum_below column.1, sum_below start.1,
      sum_below finish.1, Int.min_eq_left column.2, Int.min_eq_left start.2,
      Int.min_eq_left finish.2, if_pos isUpright]
  · simp only [crossing, isUpright, false_and, if_false, Finset.sum_const_zero]

/-- Any function of the corners has the same sum over both ends of the sides. -/
theorem sum_sides_snd (loop : Loop Int) (f : Vertex -> Int) :
    (loop.sides.map fun side => f side.2).sum = (loop.sides.map fun side => f side.1).sum := by
  have starts : (loop.sides.map fun side => f side.1) = loop.points.map f :=
    List.map_map.symm.trans (congrArg (List.map f) (map_fst_zip_rotated loop.points))
  have ends : (loop.sides.map fun side => f side.2) = (rotated loop.points).map f :=
    List.map_map.symm.trans (congrArg (List.map f) (map_snd_zip_rotated loop.points))
  rw [starts, ends]
  exact ((rotated_perm loop.points).map f).sum_eq

/-- Twice the sum of the winding numbers of a loop is its shoelace sum. -/
theorem IsRectilinear.shoelace_eq_sum_winding {loop : Loop Int} {width height : Nat}
    (rectilinear : loop.IsRectilinear width height) :
    loop.shoelace = 2 * ∑ y ∈ Finset.range height, ∑ x ∈ Finset.range width,
      loop.winding ((x : Int), (y : Int)) := by
  have general : forall sides : List (Vertex × Vertex),
      (forall side, side ∈ sides -> side ∈ loop.sides) ->
      (sides.map fun side => cross side.1 side.2).sum + (sides.map fun side => side.2.box).sum =
        2 * (∑ y ∈ Finset.range height, ∑ x ∈ Finset.range width,
          (sides.map fun side => crossing ((x : Int), (y : Int)) side.1 side.2).sum) +
          (sides.map fun side => side.1.box).sum := by
    intro sides
    induction sides with
    | nil => simp
    | cons side rest later =>
        intro part
        have member := part side List.mem_cons_self
        have ends := mem_points_of_mem_sides member
        have term := cross_add_box (rectilinear.straight side member)
        have start := rectilinear.within _ ends.1
        have finish := rectilinear.within _ ends.2
        have others := later fun other member => part other (List.mem_cons_of_mem _ member)
        simp only [List.map_cons, List.sum_cons, Finset.sum_add_distrib]
        rw [sum_crossing start.1 start.2 finish.2]
        omega
  have whole := general loop.sides fun _ member => member
  rw [sum_sides_snd loop Point.box] at whole
  rw [shoelace_eq_sum]
  exact add_right_cancel whole

end Loop

/-! ## Sums in binary64 -/

namespace Loop

/-- All terms of the shoelace sum, and all sums on the way, are whole numbers
that binary64 represents exactly. -/
def HasExactSums (loop : Loop Int) : Prop :=
  forall before side after, loop.sides = before ++ side :: after ->
    Area.isExact (cross side.1 side.2) = true ∧
      Area.isExact ((before ++ [side]).map fun side => cross side.1 side.2).sum = true

/-- The sums are exact if no sides of the loop, taken in order, add up to a large
number. -/
theorem hasExactSums_of_sublist {loop : Loop Int}
    (small : forall sides : List (Vertex × Vertex), sides.Sublist loop.sides ->
      (sides.map fun side => cross side.1 side.2).sum.natAbs ≤ Number.exactLimit) :
    loop.HasExactSums := by
  intro before side after split
  constructor
  · have alone : [side].Sublist loop.sides := by
      rw [List.singleton_sublist, split]
      exact List.mem_append_right _ List.mem_cons_self
    have term := small _ alone
    rw [List.map_singleton, List.sum_singleton] at term
    exact decide_eq_true term
  · apply decide_eq_true
    apply small
    have whole : loop.sides = (before ++ [side]) ++ after := by
      rw [split, List.append_assoc]
      rfl
    rw [whole]
    exact List.sublist_append_left _ _

/-- A straight side on a grid adds no more than the grid has cells. -/
theorem natAbs_cross_le {width height : Nat} {a b : Vertex} (straight : a.x = b.x ∨ a.y = b.y)
    (start : (0 ≤ a.x ∧ a.x ≤ width) ∧ 0 ≤ a.y ∧ a.y ≤ height)
    (finish : (0 ≤ b.x ∧ b.x ≤ width) ∧ 0 ≤ b.y ∧ b.y ≤ height) :
    (cross a b).natAbs ≤ width * height := by
  rcases a with ⟨x, y⟩
  rcases b with ⟨u, v⟩
  unfold cross
  dsimp only at straight start finish ⊢
  rcases straight with rfl | rfl
  · rw [← Int.mul_sub, Int.natAbs_mul]
    exact Nat.mul_le_mul (by omega) (by omega)
  · rw [← Int.sub_mul, Int.natAbs_mul]
    exact Nat.mul_le_mul (by omega) (by omega)

/-- The sums of a loop of a reasonable length on a grid of a reasonable size are exact. -/
theorem IsRectilinear.hasExactSums {loop : Loop Int} {width height : Nat}
    (rectilinear : loop.IsRectilinear width height)
    (small : loop.points.length * (width * height) ≤ Number.exactLimit) : loop.HasExactSums := by
  apply hasExactSums_of_sublist
  intro sides part
  have term : forall value, value ∈ sides.map (fun side => cross side.1 side.2) ->
      value.natAbs ≤ width * height := by
    intro value member
    rcases List.mem_map.mp member with ⟨side, sideMember, rfl⟩
    have listed := part.subset sideMember
    have ends := mem_points_of_mem_sides listed
    exact natAbs_cross_le (rectilinear.straight side listed) (rectilinear.within _ ends.1)
      (rectilinear.within _ ends.2)
  have few := part.length_le
  rw [length_sides] at few
  apply Nat.le_trans (natAbs_sum_le _ term)
  apply Nat.le_trans _ small
  rw [List.length_map]
  exact Nat.mul_le_mul_right _ few

theorem areaTerm_map_whole (a b : Vertex) :
    areaTerm (a.map Number.whole, b.map Number.whole) = .ok (.whole (cross a b)) := rfl

theorem add_halves {total term : Int} (exactTerm : Area.isExact term = true)
    (exactSum : Area.isExact (total + term) = true) :
    (Area.halves total).add (.whole term) = .ok (.halves (total + term)) := by
  apply if_pos
  rw [exactTerm, exactSum]
  rfl

/-- Exact sums in binary64 give the area of the loop. -/
theorem area_toNumbers {loop : Loop Int} (exact : loop.HasExactSums) :
    loop.toNumbers.area = .ok (.halves loop.shoelace) := by
  have general : forall rest before : List (Vertex × Vertex), loop.sides = before ++ rest ->
      rest.foldlM (fun (total : Area) side => do
          total.add (← areaTerm (side.1.map Number.whole, side.2.map Number.whole)))
        (.halves (before.map fun side => cross side.1 side.2).sum) =
        .ok (.halves loop.shoelace) := by
    intro rest
    induction rest with
    | nil =>
        intro before split
        rw [shoelace_eq_sum, split, List.append_nil]
        rfl
    | cons side rest later =>
        intro before split
        have exactHere := exact before side rest split
        rw [List.map_append, List.sum_append, List.map_singleton, List.sum_singleton] at exactHere
        have onward := later (before ++ [side]) (by rw [split, List.append_assoc]; rfl)
        rw [List.map_append, List.sum_append, List.map_singleton, List.sum_singleton] at onward
        rw [List.foldlM_cons, areaTerm_map_whole]
        change (Area.halves _).add (.whole _) >>= _ = _
        rw [add_halves exactHere.1 exactHere.2]
        exact onward
  have whole := general loop.sides [] rfl
  unfold area toNumbers
  rw [sides_map, List.foldlM_map]
  exact whole

theorem isHole_toNumbers {loop : Loop Int} (exact : loop.HasExactSums) :
    loop.toNumbers.isHole = .ok (decide (loop.shoelace < 0)) := by
  unfold isHole
  rw [area_toNumbers exact]
  rfl

end Loop

namespace Traced

variable {mask : Mask} {chains : List Chain} {chain : Chain} {edge : Edge}

theorem bounds_of_mem (traced : Traced mask chains) (listed : chain ∈ chains)
    (member : edge ∈ chain) : (0 ≤ edge.start.x ∧ edge.start.x ≤ mask.width) ∧
      (0 ≤ edge.start.y ∧ edge.start.y ≤ mask.height) ∧
      0 ≤ edge.finish.y ∧ edge.finish.y ≤ mask.height := by
  have starts := Mask.bounds_of_mem_boundary (traced.mem_boundary listed member)
  have ends := Mask.bounds_of_mem_boundary
    (traced.mem_boundary listed (traced.follow_mem listed member))
  rw [mask.follow_start] at ends
  exact ⟨⟨starts.1, starts.2.1⟩, starts.2.2, ends.2.2⟩

theorem bounds_of_mem_points (traced : Traced mask chains) (listed : chain ∈ chains) {v : Vertex}
    (member : v ∈ chain.toLoop.points) :
    (0 ≤ v.x ∧ v.x ≤ mask.width) ∧ 0 ≤ v.y ∧ v.y ≤ mask.height := by
  rcases traced.exists_start_of_mem_points listed member with ⟨edge, edgeMember, rfl⟩
  have bounds := traced.bounds_of_mem listed edgeMember
  exact ⟨bounds.1, bounds.2.1⟩

theorem isRectilinear_toLoop (traced : Traced mask chains) (listed : chain ∈ chains) :
    chain.toLoop.IsRectilinear mask.width mask.height where
  straight := fun _ member => traced.straight_of_mem_sides listed member
  within := fun _ member => traced.bounds_of_mem_points listed member

/-- Twice the area of a loop is twice the sum of its winding numbers. -/
theorem shoelace_toLoop (traced : Traced mask chains) (listed : chain ∈ chains) :
    chain.toLoop.shoelace = 2 * ∑ y ∈ Finset.range mask.height, ∑ x ∈ Finset.range mask.width,
      Chain.winding chain ((x : Int), (y : Int)) := by
  rw [(traced.isRectilinear_toLoop listed).shoelace_eq_sum_winding]
  simp only [traced.winding_toLoop listed]

theorem length_le (traced : Traced mask chains) (listed : chain ∈ chains) :
    chain.length ≤ 4 * (mask.width * mask.height) := by
  calc
    chain.length ≤ chains.flatten.length := (List.sublist_flatten_of_mem listed).length_le
    _ = mask.boundary.length := traced.edges.length_eq
    _ ≤ 4 * (mask.width * mask.height) := mask.length_boundary_le

theorem natAbs_cross_le (traced : Traced mask chains) (listed : chain ∈ chains)
    (member : edge ∈ chain) :
    (Loop.cross edge.start edge.finish).natAbs ≤ mask.width + mask.height := by
  have bounds := traced.bounds_of_mem listed member
  have value : Loop.cross edge.start edge.finish =
      edge.start.x * edge.direction.dy - edge.start.y * edge.direction.dx := by
    rcases edge with ⟨⟨x, y⟩, direction⟩
    cases direction <;>
      simp only [Loop.cross, Edge.finish, Direction.step, Direction.dx, Direction.dy] <;> ring
  rw [value]
  cases edge.direction <;> simp only [Direction.dx, Direction.dy] <;> omega

/-- The terms of any sides of a loop add up to a small number. -/
theorem natAbs_sum_cross_le (traced : Traced mask chains) (listed : chain ∈ chains)
    {sides : List (Vertex × Vertex)} (part : sides.Sublist chain.toLoop.sides) :
    (sides.map fun side => Loop.cross side.1 side.2).sum.natAbs ≤
      4 * (mask.width * mask.height) * (mask.width + mask.height) := by
  have closed := traced.closed listed
  have nonempty := traced.nonempty chain listed
  rcases Chain.exists_unitSteps_toLoop closed nonempty with ⟨before, after, equal, steps⟩
  have unitPart := part.flatMap fun side => Loop.stepsBetween side.1 side.2
  unfold Loop.unitSteps at steps
  rw [steps] at unitPart
  have short : (sides.flatMap fun side => Loop.stepsBetween side.1 side.2).length ≤ chain.length := by
    have turned := unitPart.length_le
    rw [List.length_map, List.length_append, Nat.add_comm, ← List.length_append, ← equal] at turned
    exact turned
  have small : forall value,
      value ∈ (sides.flatMap fun side => Loop.stepsBetween side.1 side.2).map
        (fun side => Loop.cross side.1 side.2) -> value.natAbs ≤ mask.width + mask.height := by
    intro value member
    rcases List.mem_map.mp member with ⟨step, stepMember, rfl⟩
    rcases List.mem_map.mp (unitPart.subset stepMember) with ⟨edge, edgeMember, rfl⟩
    apply traced.natAbs_cross_le listed
    rw [equal]
    exact List.mem_append.mpr (List.mem_append.mp edgeMember).symm
  rw [Chain.sum_eq_sum_stepsBetween Loop.cross Loop.cross_self Loop.cross_along_succ
    fun side member => Chain.ahead_of_mem_sides closed nonempty (part.subset member)]
  apply Nat.le_trans (Loop.natAbs_sum_le _ small)
  rw [List.length_map]
  exact Nat.mul_le_mul_right _ (Nat.le_trans short (traced.length_le listed))

/-- On a grid that is not excessively large the areas of all loops are exact. -/
theorem hasExactSums (traced : Traced mask chains) (listed : chain ∈ chains)
    (small : 4 * (mask.width * mask.height) * (mask.width + mask.height) ≤ Number.exactLimit) :
    chain.toLoop.HasExactSums :=
  Loop.hasExactSums_of_sublist fun _ part =>
    Nat.le_trans (traced.natAbs_sum_cross_le listed part) small

end Traced
end BattleMap
