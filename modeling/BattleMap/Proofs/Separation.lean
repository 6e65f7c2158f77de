import BattleMap.Proofs.Outline

namespace BattleMap

open Regions (Cell)

/-!
# Every chain separates the plane

A single chain winds around a cell at most once, and around all cells in the
same sense.  Along the chain the winding number on its right stays the same: a
turn goes around the same cell, and where the chain runs straight on, the two
right cells are both filled, so that no edge at all lies between them.  On the
left it is always one less.  Since the winding number only changes across edges
of the chain and is zero far away, these three are all the values it takes.
-/

namespace Traced

variable {mask : Mask} {chains : List Chain} {chain : Chain} {edge other : Edge}

theorem count_eq_one (traced : Traced mask chains) (listed : chain ∈ chains)
    (member : edge ∈ chain) : chain.count edge = 1 :=
  List.count_eq_one_of_mem (traced.nodup listed) member

theorem reverse_not_mem (traced : Traced mask chains) (listed : chain ∈ chains)
    (member : edge ∈ chain) : edge.reverse ∉ chain := by
  intro reversed
  exact Mask.reverse_not_mem_boundary (traced.mem_boundary listed member)
    (traced.mem_boundary listed reversed)

/-- A chain winds around the cell on its left once less than around the cell on
its right. -/
theorem winding_leftCell (traced : Traced mask chains) (listed : chain ∈ chains)
    (member : edge ∈ chain) :
    Chain.winding chain edge.leftCell = Chain.winding chain edge.rightCell - 1 := by
  have across := (traced.closed listed).winding_rightCell_sub edge
  rw [traced.count_eq_one listed member,
    List.count_eq_zero_of_not_mem (traced.reverse_not_mem listed member)] at across
  omega

/-- The winding number is the same on both sides of an edge of the lattice that
the chain does not use. -/
theorem winding_rightCell_eq_leftCell (traced : Traced mask chains) (listed : chain ∈ chains)
    (unused : edge ∉ chain) (unusedBack : edge.reverse ∉ chain) :
    Chain.winding chain edge.rightCell = Chain.winding chain edge.leftCell := by
  have across := (traced.closed listed).winding_rightCell_sub edge
  rw [List.count_eq_zero_of_not_mem unused, List.count_eq_zero_of_not_mem unusedBack] at across
  omega

/-- Between two cells that are both filled or both unfilled no chain passes. -/
theorem winding_eq_of_fills_eq (traced : Traced mask chains) (listed : chain ∈ chains)
    (same : mask.fills edge.rightCell = mask.fills edge.leftCell) :
    Chain.winding chain edge.rightCell = Chain.winding chain edge.leftCell := by
  apply traced.winding_rightCell_eq_leftCell listed
  · intro member
    have beside := Mask.mem_boundary.mp (traced.mem_boundary listed member)
    rw [beside.1, beside.2] at same
    cases same
  · intro member
    have beside := Mask.mem_boundary.mp (traced.mem_boundary listed member)
    rw [Edge.rightCell_reverse, Edge.leftCell_reverse] at beside
    rw [beside.1, beside.2] at same
    cases same

/-- One step along a chain does not change the winding number on its right. -/
theorem winding_rightCell_follow (traced : Traced mask chains) (listed : chain ∈ chains)
    (member : edge ∈ chain) :
    Chain.winding chain (mask.follow edge).rightCell = Chain.winding chain edge.rightCell := by
  have followed := traced.follow_mem listed member
  rcases mask.follow_cases edge with ⟨_, next⟩ | ⟨right, _, next⟩ | ⟨_, _, next⟩
  · rw [next, Edge.rightCell_onward_right]
  · have beside := Mask.mem_boundary.mp (traced.mem_boundary listed member)
    have same : mask.fills (edge.onward edge.direction.right).rightCell =
        mask.fills (edge.onward edge.direction.right).leftCell := by
      rw [Edge.rightCell_onward_right, Edge.leftCell_onward_right]
      exact beside.1.trans right.symm
    have between := traced.winding_eq_of_fills_eq listed same
    rw [Edge.rightCell_onward_right, Edge.leftCell_onward_right] at between
    rw [next]
    exact between.symm
  · have before := traced.winding_leftCell listed member
    have behind := traced.winding_leftCell listed followed
    rw [next, Edge.leftCell_onward_left] at behind
    rw [next]
    omega

/-- All cells on the right of a chain are wound around alike. -/
theorem winding_rightCell_eq (traced : Traced mask chains) (listed : chain ∈ chains)
    (member : edge ∈ chain) (memberOther : other ∈ chain) :
    Chain.winding chain other.rightCell = Chain.winding chain edge.rightCell := by
  have kept : forall entry, entry ∈ chain ->
      Chain.winding chain entry.rightCell = Chain.winding chain edge.rightCell ->
      Chain.winding chain (mask.follow entry).rightCell = Chain.winding chain edge.rightCell := by
    intro entry entryMember same
    rw [traced.winding_rightCell_follow listed entryMember, same]
  exact Loop.forall_mem_of_next
    (fun other => Chain.winding chain other.rightCell = Chain.winding chain edge.rightCell)
    (traced.orbit chain listed) kept member rfl other memberOther

theorem winding_eq_zero_of_beyond (traced : Traced mask chains) (listed : chain ∈ chains) {x : Int}
    (beyond : mask.width ≤ x) (y : Int) : Chain.winding chain (x, y) = 0 := by
  apply Chain.winding_eq_zero
  intro edge member
  have bounds := Mask.bounds_of_mem_boundary (traced.mem_boundary listed member)
  exact Or.inl (by omega)

/-- Every winding number of a chain is one of three: zero, and those on its right
and on its left. -/
theorem winding_cases (traced : Traced mask chains) (listed : chain ∈ chains)
    (member : edge ∈ chain) (cell : Cell) :
    Chain.winding chain cell = 0 ∨ Chain.winding chain cell = Chain.winding chain edge.rightCell ∨
      Chain.winding chain cell = Chain.winding chain edge.leftCell := by
  revert cell
  refine mask.forall_cells ?_ ?_
  · exact fun x y beyond => Or.inl (traced.winding_eq_zero_of_beyond listed beyond y)
  · intro side _ nearer
    by_cases used : side ∈ chain
    · exact Or.inr (Or.inl (traced.winding_rightCell_eq listed member used))
    · by_cases usedBack : side.reverse ∈ chain
      · have level := traced.winding_leftCell listed usedBack
        have edgeLevel := traced.winding_leftCell listed member
        rw [traced.winding_rightCell_eq listed member usedBack, Edge.leftCell_reverse] at level
        exact Or.inr (Or.inr (level.trans edgeLevel.symm))
      · rw [traced.winding_rightCell_eq_leftCell listed used usedBack]
        exact nearer

/-! ## The topmost vertex -/

/-- A chain starts its loop at the vertex that reads first among all its
vertices, not only among its corners: that vertex is itself a corner. -/
theorem not_readsBefore (traced : Traced mask chains) (listed : chain ∈ chains) {top : Vertex}
    (first : forall v, v ∈ chain.corners -> Chain.readsBefore v top = false) (member : edge ∈ chain) :
    Chain.readsBefore edge.start top = false := by
  have starts : chain.map Edge.start ≠ [] := by
    intro none
    rw [List.map_eq_nil_iff.mp none] at member
    cases member
  rcases Chain.fromTopmost_eq starts with ⟨least, before, after, split, _, leastFirst⟩
  have leastListed : least ∈ chain.map Edge.start := by
    rw [split]
    exact List.mem_append_right _ List.mem_cons_self
  rcases List.mem_map.mp leastListed with ⟨turning, turningMember, start⟩
  have bound : forall edge, edge ∈ chain -> Chain.readsBefore edge.start least = false :=
    fun edge member => leastFirst _ (List.mem_map_of_mem member)
  rcases Loop.exists_previous (traced.orbit chain listed) turningMember with
    ⟨previous, previousMember, next⟩
  have successive : (previous, turning) ∈ chain.zip (Loop.rotated chain) := by
    rw [Loop.zip_rotated_of_turns (traced.orbit chain listed), ← next]
    exact List.mem_map_of_mem previousMember
  have turned : previous.direction ≠ turning.direction := by
    -- Going straight on, one of the two neighbours would read before the vertex.
    intro straight
    have ahead := bound _ (traced.follow_mem listed turningMember)
    have behind := bound _ previousMember
    have arrives := mask.follow_start previous
    rw [mask.follow_start] at ahead
    rw [next] at arrives
    rw [← start, Chain.readsBefore_eq_false_iff] at ahead behind
    rcases previous with ⟨⟨px, py⟩, direction⟩
    rcases turning with ⟨⟨tx, ty⟩, turningDirection⟩
    cases straight
    cases direction <;> simp only [Edge.finish, Direction.step, Point.mk.injEq] at ahead behind arrives <;>
      omega
  have corner := first _ (Chain.start_mem_corners successive turned)
  rw [start] at corner
  exact Chain.readsBefore_cotrans corner (bound edge member)

/-- Above the vertex that reads first there are no edges, so nothing is counted. -/
theorem winding_eq_zero_of_above (traced : Traced mask chains) (listed : chain ∈ chains)
    (first : forall other, other ∈ chain -> Chain.readsBefore other.start edge.start = false)
    (x : Int) {y : Int} (above : y < edge.start.y) : Chain.winding chain (x, y) = 0 := by
  apply Chain.winding_eq_zero
  intro other member
  have starts := first _ member
  have ends := first _ (traced.follow_mem listed member)
  rw [mask.follow_start] at ends
  rw [Chain.readsBefore_eq_false_iff] at starts ends
  exact Or.inr (Or.inl (by omega))

/-- At the vertex that reads first a chain either arrives from below and leaves
to the right, and then it winds once around the cells on its right, or it
arrives from the right and leaves downward, and then it winds around the cells
on its left. -/
theorem direction_of_first (traced : Traced mask chains) (listed : chain ∈ chains)
    (member : edge ∈ chain)
    (first : forall other, other ∈ chain -> Chain.readsBefore other.start edge.start = false) :
    (edge.direction = .east ∧ Chain.winding chain edge.rightCell = 1) ∨
      (edge.direction = .south ∧ Chain.winding chain edge.rightCell = 0 ∧
        Exists fun previous =>
          previous ∈ chain ∧ previous.direction = .west ∧ previous.finish = edge.start) := by
  have ahead := first _ (traced.follow_mem listed member)
  rw [mask.follow_start, Chain.readsBefore_eq_false_iff] at ahead
  rcases Loop.exists_previous (traced.orbit chain listed) member with
    ⟨previous, previousMember, next⟩
  have behind := first _ previousMember
  rw [Chain.readsBefore_eq_false_iff] at behind
  have arrives := mask.follow_start previous
  have noReturn := mask.follow_direction_ne_opposite previous
  rw [next] at arrives noReturn
  have above : forall x, Chain.winding chain (x, edge.start.y - 1) = 0 :=
    fun x => traced.winding_eq_zero_of_above listed first x (by omega)
  have level := traced.winding_leftCell listed member
  have sameLevel := traced.winding_rightCell_eq listed previousMember member
  rcases edge with ⟨⟨x, y⟩, direction⟩
  rcases previous with ⟨⟨px, py⟩, previousDirection⟩
  cases direction with
  | east =>
      have outside : Chain.winding chain (Edge.mk ⟨x, y⟩ .east).leftCell = 0 := above x
      exact Or.inl ⟨rfl, by omega⟩
  | south =>
      cases previousDirection with
      | west =>
          have outside := above (px - 1)
          refine Or.inr ⟨rfl, sameLevel.trans ?_, _, previousMember, rfl, arrives.symm⟩
          simp only [Edge.finish, Direction.step, Point.mk.injEq] at arrives
          rw [arrives.2] at outside
          exact outside
      | north => exact absurd rfl noReturn
      | east | south =>
          simp only [Edge.finish, Direction.step, Point.mk.injEq] at behind arrives
          omega
  | west | north =>
      simp only [Edge.finish, Direction.step] at ahead
      omega

end Traced
end BattleMap
