import Mathlib.Data.List.Pairwise
import BattleMap.Proofs.Chaining
import BattleMap.Proofs.Winding

namespace BattleMap

open Regions (Cell)

/-!
# The outline of a mask in terms of its chains

Tracing a mask never fails.  Its loops are those of a list of chains which
share out the boundary and each of which follows it around.  This is all that
the results on outlines use of the tracer: they argue with the edges of a chain,
and only at the end go over to the corners of its loop.
-/

/-- Chains that share out the boundary of a mask, each of them an orbit. -/
structure Traced (mask : Mask) (chains : List Chain) : Prop where
  edges : chains.flatten.Perm mask.boundary
  nonempty : forall chain, chain ∈ chains -> chain ≠ []
  orbit : forall chain, chain ∈ chains -> chain.map mask.follow = Loop.rotated chain

/-- Joining the boundary makes such chains, in whatever order its edges are listed. -/
theorem Chain.exists_traced_of_perm {mask : Mask} {edges : List Edge}
    (listed : edges.Perm mask.boundary) :
    Exists fun chains => Chain.ofEdges edges = .ok chains ∧ Traced mask chains := by
  rcases Chain.ofEdges_of_perm listed with ⟨chains, chained, edges, orbits⟩
  exact ⟨chains, chained, edges, fun chain member => (orbits chain member).1,
    fun chain member => (orbits chain member).2⟩

theorem Loop.ofEdges_of_chains {edges : List Edge} {chains : List Chain}
    (chained : Chain.ofEdges edges = .ok chains) :
    Loop.ofEdges edges = .ok (chains.map Chain.toLoop) := by
  unfold ofEdges
  rw [chained]

theorem Mask.exists_traced (mask : Mask) :
    Exists fun chains : List Chain => mask.outline = .ok (chains.map Chain.toLoop) ∧
      Traced mask chains := by
  rcases Chain.exists_traced_of_perm (List.Perm.refl mask.boundary) with ⟨chains, chained, traced⟩
  exact ⟨chains, Loop.ofEdges_of_chains chained, traced⟩

/-- An orbit is a closed chain. -/
theorem Mask.closed_of_turns {mask : Mask} {chain : Chain}
    (turns : chain.map mask.follow = Loop.rotated chain) : chain.Closed := by
  unfold Chain.Closed
  rw [← Loop.map_rotated, ← turns, List.map_map]
  apply List.map_congr_left
  intro edge _
  exact (mask.follow_start edge).symm

theorem Chain.exists_start_of_mem_cornersFrom {heading : Direction} {chain : Chain} {v : Vertex}
    (member : v ∈ Chain.cornersFrom heading chain) :
    Exists fun edge => edge ∈ chain ∧ edge.start = v := by
  rcases List.append_of_mem member with ⟨_, _, split⟩
  rcases Chain.exists_edge_of_cornersFrom_eq_append split with ⟨head, edge, tail, equal, start, _⟩
  refine ⟨edge, ?_, start⟩
  rw [equal]
  exact List.mem_append_right _ List.mem_cons_self

/-- The boundary stays on the lattice points of the grid. -/
theorem Mask.bounds_of_mem_boundary {mask : Mask} {edge : Edge} (member : edge ∈ mask.boundary) :
    0 ≤ edge.start.x ∧ edge.start.x ≤ mask.width ∧ 0 ≤ edge.start.y ∧
      edge.start.y ≤ mask.height := by
  have inside := bounds_of_fills (mem_boundary.mp member).1
  rcases edge with ⟨⟨x, y⟩, direction⟩
  cases direction <;> simp only [Edge.rightCell] at inside ⊢ <;> omega

namespace Traced

variable {mask : Mask} {chains : List Chain} {chain : Chain} {edge : Edge}

theorem mem_boundary (traced : Traced mask chains) (listed : chain ∈ chains)
    (member : edge ∈ chain) : edge ∈ mask.boundary :=
  traced.edges.mem_iff.mp (List.mem_flatten.mpr ⟨chain, listed, member⟩)

theorem exists_chain (traced : Traced mask chains) (member : edge ∈ mask.boundary) :
    Exists fun chain => chain ∈ chains ∧ edge ∈ chain :=
  List.mem_flatten.mp (traced.edges.mem_iff.mpr member)

theorem nodup_flatten (traced : Traced mask chains) : chains.flatten.Nodup :=
  traced.edges.nodup_iff.mpr mask.nodup_boundary

theorem nodup (traced : Traced mask chains) (listed : chain ∈ chains) : chain.Nodup :=
  (List.nodup_flatten.mp traced.nodup_flatten).1 chain listed

theorem nodup_chains (traced : Traced mask chains) : chains.Nodup := by
  have apart := (List.nodup_flatten.mp traced.nodup_flatten).2
  apply List.Pairwise.imp_of_mem _ apart
  intro chain other listed _ disjoint same
  subst same
  rcases List.exists_mem_of_ne_nil chain (traced.nonempty chain listed) with ⟨edge, member⟩
  exact disjoint member member

/-- Different chains share no edge. -/
theorem eq_of_mem (traced : Traced mask chains) {other : Chain} (listed : chain ∈ chains)
    (listedOther : other ∈ chains) (member : edge ∈ chain) (memberOther : edge ∈ other) :
    chain = other := by
  have apart := (List.nodup_flatten.mp traced.nodup_flatten).2
  have symmetric : Std.Symm (@List.Disjoint Edge) :=
    ⟨fun _ _ disjoint _ inSecond inFirst => disjoint inFirst inSecond⟩
  by_contra different
  exact apart.forall listed listedOther different member memberOther

theorem closed (traced : Traced mask chains) (listed : chain ∈ chains) : chain.Closed :=
  Mask.closed_of_turns (traced.orbit chain listed)

theorem follow_mem (traced : Traced mask chains) (listed : chain ∈ chains)
    (member : edge ∈ chain) : mask.follow edge ∈ chain :=
  Loop.next_mem (traced.orbit chain listed) member

/-- The corners of a loop are vertices of its chain. -/
theorem exists_start_of_mem_points (traced : Traced mask chains) (listed : chain ∈ chains)
    {v : Vertex} (member : v ∈ chain.toLoop.points) :
    Exists fun edge => edge ∈ chain ∧ edge.start = v := by
  rcases Chain.exists_entry (traced.closed listed) (traced.nonempty chain listed) with
    ⟨before, entry, after, equal, _, points, _⟩
  rw [points] at member
  rcases List.mem_cons.mp member with same | later
  · refine ⟨entry, ?_, same.symm⟩
    rw [equal]
    exact List.mem_append_right _ List.mem_cons_self
  · rcases Chain.exists_start_of_mem_cornersFrom later with ⟨edge, member, start⟩
    refine ⟨edge, ?_, start⟩
    rw [equal]
    rcases List.mem_append.mp member with behind | ahead
    · exact List.mem_append_right _ (List.mem_cons_of_mem _ behind)
    · exact List.mem_append_left _ ahead

theorem isNonneg_of_mem_points (traced : Traced mask chains) (listed : chain ∈ chains) (v : Vertex)
    (member : v ∈ chain.toLoop.points) : v.IsNonneg := by
  rcases traced.exists_start_of_mem_points listed member with ⟨edge, member, start⟩
  have bounds := Mask.bounds_of_mem_boundary (traced.mem_boundary listed member)
  rw [← start]
  exact ⟨bounds.1, bounds.2.2.1⟩

/-- The sides of a loop are upright or level. -/
theorem straight_of_mem_sides (traced : Traced mask chains) (listed : chain ∈ chains)
    {side : Vertex × Vertex} (member : side ∈ chain.toLoop.sides) :
    side.1.x = side.2.x ∨ side.1.y = side.2.y := by
  rcases Chain.ahead_of_mem_sides (traced.closed listed) (traced.nonempty chain listed) member with
    ⟨heading, count, ahead⟩
  rw [ahead]
  cases heading <;> simp [Direction.along, Direction.dx, Direction.dy]

theorem isNonneg_of_mem_loops (traced : Traced mask chains) (loop : Loop Int)
    (listed : loop ∈ chains.map Chain.toLoop) (v : Vertex) (member : v ∈ loop.points) :
    v.IsNonneg := by
  rcases List.mem_map.mp listed with ⟨chain, listed, same⟩
  rw [← same] at member
  exact traced.isNonneg_of_mem_points listed v member

theorem winding_toLoop (traced : Traced mask chains) (listed : chain ∈ chains) (cell : Cell) :
    chain.toLoop.winding cell = Chain.winding chain cell :=
  Chain.sum_sides_toLoop (traced.closed listed) (traced.nonempty chain listed) (crossing cell)
    (crossing_self cell) (crossing_along_succ cell)

/-- All loops together wind as the boundary does. -/
theorem windingSum_loops (traced : Traced mask chains) (cell : Cell) :
    Loop.windingSum (chains.map Chain.toLoop) cell = Chain.winding mask.boundary cell := by
  rw [← Chain.winding_perm traced.edges, Chain.winding_flatten]
  unfold Loop.windingSum
  rw [List.map_map]
  apply congrArg
  apply List.map_congr_left
  intro chain listed
  exact traced.winding_toLoop listed cell

end Traced
end BattleMap
