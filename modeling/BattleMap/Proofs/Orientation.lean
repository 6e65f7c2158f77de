import Mathlib.Algebra.Order.BigOperators.Group.Finset
import BattleMap.Proofs.Area
import BattleMap.Proofs.Entrance

namespace BattleMap

open Regions (Cell)

/-!
# Outer boundaries and holes

A loop of an outline is one of two things.  An outer boundary winds once around
the cells inside it, has a positive area, and its first side runs to the right.
A hole winds around the cells inside it the other way, has a negative area, and
its first side runs down.  Which of the two it is can be read off the edge at
its first vertex.
-/

/-- What a loop with a given sense of turning and a given direction of its first
side has to satisfy, with its winding numbers given row by row. -/
structure Loop.RunsAround (loop : Loop Int) (table : List (List Int)) (turn : Int)
    (heading : Direction) : Prop where
  values : forall row, row ∈ table -> forall value, value ∈ row -> value = 0 ∨ value = turn
  reaches : Exists fun row => row ∈ table ∧ turn ∈ row
  area : 0 < turn * loop.shoelace
  computed : loop.HasExactSums -> loop.toNumbers.area = .ok (.halves loop.shoelace) ∧
    loop.toNumbers.isHole = .ok (decide (turn < 0))
  first : Exists fun a => Exists fun b => Exists fun rest =>
    loop.points = a :: b :: rest ∧ Ahead heading a b

/-- The loop is an outer boundary. -/
def Loop.IsOuter (loop : Loop Int) (table : List (List Int)) : Prop :=
  loop.RunsAround table 1 .east

/-- The loop is a hole. -/
def Loop.IsInner (loop : Loop Int) (table : List (List Int)) : Prop :=
  loop.RunsAround table (-1) .south

namespace Traced

variable {mask : Mask} {chains : List Chain} {chain : Chain} {edge : Edge}

/-- The first side of a loop runs along the edge at its first vertex, before
which no vertex of the chain reads. -/
theorem exists_first (traced : Traced mask chains) (listed : chain ∈ chains) :
    Exists fun edge => edge ∈ chain ∧
      (forall other, other ∈ chain -> Chain.readsBefore other.start edge.start = false) ∧
      Exists fun a => Exists fun b => Exists fun rest =>
        chain.toLoop.points = a :: b :: rest ∧ Ahead edge.direction a b := by
  rcases traced.exists_enters listed with ⟨edge, rest, enters⟩
  refine ⟨edge, enters.mem, enters.topmost, edge.start, ?_⟩
  have ahead := enters.ahead
  rw [enters.points, ← Chain.map_start_turningFrom]
  cases corners : Chain.turningFrom edge.direction rest with
  | nil =>
      have none : Chain.cornersFrom edge.direction rest = [] := by
        rw [← Chain.map_start_turningFrom, corners]
        rfl
      exact absurd none (Chain.cornersFrom_ne_nil enters.leads)
  | cons next others =>
      rw [corners] at ahead
      exact ⟨next.start, others.map Edge.start, rfl, ahead (edge, next) List.mem_cons_self⟩

theorem mem_windingTable {loop : Loop Int} {width height : Nat} {value : Int} :
    (Exists fun row => row ∈ windingTable [loop] width height ∧ value ∈ row) ↔
      Exists fun x : Nat => Exists fun y : Nat => x < width ∧ y < height ∧
        loop.winding ((x : Int), (y : Int)) = value := by
  have single : forall cell, Loop.windingSum [loop] cell = loop.winding cell := by
    intro cell
    exact Int.add_zero _
  unfold windingTable cellTable
  simp only [single]
  constructor
  · rintro ⟨row, rowMember, member⟩
    rcases List.mem_map.mp rowMember with ⟨y, low, rfl⟩
    rcases List.mem_map.mp member with ⟨x, left, same⟩
    exact ⟨x, y, List.mem_range.mp left, List.mem_range.mp low, same⟩
  · rintro ⟨x, y, left, low, same⟩
    refine ⟨_, List.mem_map_of_mem (List.mem_range.mpr low), ?_⟩
    rw [← same]
    exact List.mem_map_of_mem (List.mem_range.mpr left)

/-- A loop that runs around its cells once leaves no counter's range. -/
theorem windingRows_of_runsAround {loop : Loop Int} {width height : Nat} {turn : Int}
    {heading : Direction} (nonneg : forall v, v ∈ loop.points -> v.IsNonneg)
    (unit : turn = 1 ∨ turn = -1)
    (runs : loop.RunsAround (windingTable [loop] width height) turn heading) :
    windingRows ([loop].flatMap Loop.latticeUprights) width height =
      windingTable [loop] width height := by
  apply windingRows_eq_windingTable (List.forall_mem_singleton.mpr nonneg)
  intro x y column row
  rcases mem_windingTable.mpr ⟨x, y, column, row, rfl⟩ with ⟨numbers, listed, member⟩
  have value := runs.values numbers listed _ member
  have small : loop.winding (x, y) = 0 ∨ loop.winding (x, y) = 1 ∨ loop.winding (x, y) = -1 := by
    omega
  change IsCountable (loop.winding (x, y) + 0)
  rcases small with same | same | same <;> rw [same] <;> decide

/-- If all winding numbers of a chain are zero or a given unit, and this unit
occurs on the grid, then it is the sign of the area. -/
theorem shoelace_pos (traced : Traced mask chains) (listed : chain ∈ chains) {turn : Int}
    (unit : turn = 1 ∨ turn = -1)
    (values : forall cell, Chain.winding chain cell = 0 ∨ Chain.winding chain cell = turn) {x y : Nat}
    (column : x < mask.width) (row : y < mask.height)
    (reached : Chain.winding chain ((x : Int), (y : Int)) = turn) :
    0 < turn * chain.toLoop.shoelace := by
  have counted : forall cell, 0 ≤ turn * Chain.winding chain cell := by
    intro cell
    rcases values cell with same | same <;> rw [same] <;> rcases unit with equal | equal <;>
      rw [equal] <;> decide
  have one : turn * Chain.winding chain ((x : Int), (y : Int)) = 1 := by
    rw [reached]
    rcases unit with equal | equal <;> rw [equal] <;> rfl
  have rowSum := Finset.single_le_sum
    (f := fun x : Nat => turn * Chain.winding chain ((x : Int), (y : Int)))
    (fun _ _ => counted _) (Finset.mem_range.mpr column)
  have total := Finset.single_le_sum
    (f := fun y : Nat => ∑ x ∈ Finset.range mask.width,
      turn * Chain.winding chain ((x : Int), (y : Int)))
    (fun _ _ => Finset.sum_nonneg fun _ _ => counted _) (Finset.mem_range.mpr row)
  simp only [← Finset.mul_sum] at total rowSum
  rw [traced.shoelace_toLoop listed, Int.mul_left_comm]
  omega

theorem runsAround (traced : Traced mask chains) (listed : chain ∈ chains) {turn : Int}
    {heading : Direction} (unit : turn = 1 ∨ turn = -1)
    (values : forall cell, Chain.winding chain cell = 0 ∨ Chain.winding chain cell = turn) {x y : Nat}
    (column : x < mask.width) (row : y < mask.height)
    (reached : Chain.winding chain ((x : Int), (y : Int)) = turn)
    (first : Exists fun a => Exists fun b => Exists fun rest =>
      chain.toLoop.points = a :: b :: rest ∧ Ahead heading a b) :
    chain.toLoop.RunsAround (windingTable [chain.toLoop] mask.width mask.height) turn heading := by
  have area := traced.shoelace_pos listed unit values column row reached
  refine ⟨?_, ?_, area, ?_, first⟩
  · intro row member value valueMember
    rcases mem_windingTable.mp ⟨row, member, valueMember⟩ with ⟨x, y, _, _, same⟩
    rw [← same, traced.winding_toLoop listed]
    exact values _
  · apply mem_windingTable.mpr
    exact ⟨x, y, column, row, (traced.winding_toLoop listed _).trans reached⟩
  · intro exact
    refine ⟨Loop.area_toNumbers exact, ?_⟩
    rw [Loop.isHole_toNumbers exact]
    rcases unit with equal | equal <;> rw [equal] at area ⊢ <;> congr 2 <;>
      simp only [eq_iff_iff] <;> omega

/-- A loop whose first side runs east and that winds once around the cell on the right of
one of its edges is an outer boundary. -/
theorem isOuter_of_winding (traced : Traced mask chains) (listed : chain ∈ chains)
    (member : edge ∈ chain) (outer : Chain.winding chain edge.rightCell = 1)
    (first : Exists fun a => Exists fun b => Exists fun rest =>
      chain.toLoop.points = a :: b :: rest ∧ Ahead .east a b) :
    chain.toLoop.IsOuter (windingTable [chain.toLoop] mask.width mask.height) := by
  have level := traced.winding_leftCell listed member
  have filled := Mask.bounds_of_fills
    (Mask.mem_boundary.mp (traced.mem_boundary listed member)).1
  have values : forall cell, Chain.winding chain cell = 0 ∨ Chain.winding chain cell = 1 := by
    intro cell
    have value := traced.winding_cases listed member cell
    omega
  have place : edge.rightCell = ((edge.rightCell.1.toNat : Int), (edge.rightCell.2.toNat : Int)) := by
    rw [Int.toNat_of_nonneg filled.1, Int.toNat_of_nonneg filled.2.2.1]
  rw [place] at outer
  apply traced.runsAround listed (Or.inl rfl) values _ _ outer first
  · omega
  · omega

/-- A loop that begins downward at one of its edges and does not wind around the cell on the
right of it is a hole. -/
theorem isInner_of_winding (traced : Traced mask chains) (listed : chain ∈ chains)
    (member : edge ∈ chain) (heading : edge.direction = .south)
    (inner : Chain.winding chain edge.rightCell = 0)
    (first : Exists fun a => Exists fun b => Exists fun rest =>
      chain.toLoop.points = a :: b :: rest ∧ Ahead .south a b) :
    chain.toLoop.IsInner (windingTable [chain.toLoop] mask.width mask.height) := by
  have level := traced.winding_leftCell listed member
  have values : forall cell, Chain.winding chain cell = 0 ∨ Chain.winding chain cell = -1 := by
    intro cell
    have value := traced.winding_cases listed member cell
    omega
  have inside := traced.bounds_of_mem listed member
  rw [inner] at level
  rcases edge with ⟨⟨x, y⟩, direction⟩
  cases heading
  change Chain.winding chain (x, y) = -1 at level
  simp only [Edge.finish, Direction.step] at inside
  have column : x < mask.width := by
    by_contra beyond
    rw [traced.winding_eq_zero_of_beyond listed (Int.not_lt.mp beyond)] at level
    cases level
  have place : (x, y) = ((x.toNat : Int), (y.toNat : Int)) := by
    rw [Int.toNat_of_nonneg inside.1.1, Int.toNat_of_nonneg inside.2.1.1]
  rw [place] at level
  apply traced.runsAround listed (Or.inr rfl) values _ _ level first
  · omega
  · omega

/-- Every loop is an outer boundary, and winds once around the cells on its
right, or it is a hole and does not. -/
theorem isOuter_or_isInner (traced : Traced mask chains) (listed : chain ∈ chains) :
    (chain.toLoop.IsOuter (windingTable [chain.toLoop] mask.width mask.height) ∧
        forall edge, edge ∈ chain -> Chain.winding chain edge.rightCell = 1) ∨
      (chain.toLoop.IsInner (windingTable [chain.toLoop] mask.width mask.height) ∧
        forall edge, edge ∈ chain -> Chain.winding chain edge.rightCell = 0) := by
  rcases traced.exists_first listed with ⟨edge, member, least, first⟩
  have alike : forall other, other ∈ chain ->
      Chain.winding chain other.rightCell = Chain.winding chain edge.rightCell :=
    fun _ memberOther => traced.winding_rightCell_eq listed member memberOther
  rcases traced.direction_of_first listed member least with
    ⟨heading, outer⟩ | ⟨heading, inner, _⟩
  · rw [heading] at first
    exact Or.inl ⟨traced.isOuter_of_winding listed member outer first,
      fun other memberOther => (alike other memberOther).trans outer⟩
  · rw [heading] at first
    exact Or.inr ⟨traced.isInner_of_winding listed member heading inner first,
      fun other memberOther => (alike other memberOther).trans inner⟩

/-- The sign of the area tells whether a loop winds around the cells on its right. -/
theorem shoelace_neg_iff (traced : Traced mask chains) (listed : chain ∈ chains)
    (member : edge ∈ chain) :
    chain.toLoop.shoelace < 0 ↔ Chain.winding chain edge.rightCell = 0 := by
  rcases traced.isOuter_or_isInner listed with ⟨outer, level⟩ | ⟨inner, level⟩
  · have area := outer.area
    rw [level edge member]
    omega
  · have area := inner.area
    rw [level edge member]
    omega

end Traced

/-- Every loop of an outline is an outer boundary or a hole: its winding numbers
on the grid are zero and one, its area is positive and its first side runs east,
or they are zero and minus one, its area is negative and its first side runs
south.  Where the sums of the area are exact, as they are on every grid that is
not excessively large, the program finds this area and takes the loop for a hole
exactly in the second case. -/
theorem Mask.outline_isOuter_or_isInner (mask : Mask) :
    Exists fun loops : List (Loop Int) => mask.outline = .ok loops ∧
      forall loop, loop ∈ loops -> Exists fun uprights =>
        uprightsOf [loop.toNumbers] = .ok uprights ∧
          windingGrid [loop.toNumbers] (mask.width : Int) (mask.height : Int) =
            ((Memory.checkGrid windingBytes (mask.width : Int) (mask.height : Int)).map fun _ =>
              windingRows uprights mask.width mask.height) ∧
          (loop.IsOuter (windingRows uprights mask.width mask.height) ∨
            loop.IsInner (windingRows uprights mask.width mask.height)) ∧
          (4 * (mask.width * mask.height) * (mask.width + mask.height) ≤ Number.exactLimit ->
            loop.HasExactSums) := by
  rcases mask.exists_traced with ⟨chains, outlined, traced⟩
  refine ⟨chains.map Chain.toLoop, outlined, ?_⟩
  intro loop member
  have nonneg := traced.isNonneg_of_mem_loops loop member
  rcases List.mem_map.mp member with ⟨chain, listed, rfl⟩
  refine ⟨_, Loop.uprightsOf_toNumbers [chain.toLoop], windingGrid_toNumbers [chain.toLoop] _ _, ?_,
    traced.hasExactSums listed⟩
  rcases traced.isOuter_or_isInner listed with ⟨outer, _⟩ | ⟨inner, _⟩
  · rw [Traced.windingRows_of_runsAround nonneg (Or.inl rfl) outer]
    exact Or.inl outer
  · rw [Traced.windingRows_of_runsAround nonneg (Or.inr rfl) inner]
    exact Or.inr inner

end BattleMap
