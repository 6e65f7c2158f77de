import Mathlib.Data.List.Perm.Subperm
import BattleMap.Outline
import BattleMap.Proofs.Following
import BattleMap.Proofs.Joining

namespace BattleMap

/-!
# Balanced edges can be joined

Edges are balanced if every vertex is left as often as it is reached.  An open
chain leaves every vertex as often as it reaches it, except at its two ends; so
as long as it has not come back to its start, an unused edge leaves the vertex
where it stands.  That edge is refused only if it turns back, which it cannot do
if no edge was given together with its reverse.  Back at its start the chain has
its first edge to go on with.  So no walk ever gets stuck.
-/

namespace Edge

/-- How many edges start at a vertex. -/
def departures (edges : List Edge) (v : Vertex) : Nat :=
  edges.countP fun edge => edge.start = v

/-- How many edges end at a vertex. -/
def arrivals (edges : List Edge) (v : Vertex) : Nat :=
  edges.countP fun edge => edge.finish = v

/-- Every vertex is left as often as it is reached. -/
def Balanced (edges : List Edge) : Prop :=
  forall v, departures edges v = arrivals edges v

/-- No edge is listed together with its reverse. -/
def Unreversed (edges : List Edge) : Prop :=
  forall edge, edge ∈ edges -> edge.reverse ∉ edges

instance (edges : List Edge) : Decidable (Unreversed edges) :=
  inferInstanceAs (Decidable (forall edge, edge ∈ edges -> edge.reverse ∉ edges))

theorem departures_append (a b : List Edge) (v : Vertex) :
    departures (a ++ b) v = departures a v + departures b v :=
  List.countP_append

theorem arrivals_append (a b : List Edge) (v : Vertex) :
    arrivals (a ++ b) v = arrivals a v + arrivals b v :=
  List.countP_append

theorem departures_reverse (edges : List Edge) (v : Vertex) :
    departures edges.reverse v = departures edges v :=
  List.countP_reverse

theorem arrivals_reverse (edges : List Edge) (v : Vertex) :
    arrivals edges.reverse v = arrivals edges v :=
  List.countP_reverse

theorem balanced_of_perm {edges : List Edge}
    (same : (edges.map Edge.finish).Perm (edges.map Edge.start)) : Balanced edges := by
  intro v
  have counted := same.countP_eq fun w => decide (w = v)
  rw [List.countP_map, List.countP_map] at counted
  exact counted.symm

/-- If every edge at a vertex is listed at least as often elsewhere, there are as
many departures there. -/
theorem departures_le {a b : List Edge} {v : Vertex}
    (fewer : forall edge, edge.start = v -> a.count edge ≤ b.count edge) :
    departures a v ≤ departures b v := by
  have within :
      (a.filter fun edge => edge.start = v).Subperm (b.filter fun edge => edge.start = v) := by
    apply List.subperm_ext_iff.mpr
    intro edge member
    have starts := of_decide_eq_true (List.mem_filter.mp member).2
    have counted : forall edges : List Edge,
        (edges.filter fun edge => edge.start = v).count edge = edges.count edge :=
      fun _ => List.count_filter (decide_eq_true starts)
    rw [counted, counted]
    exact fewer edge starts
  unfold departures
  rw [List.countP_eq_length_filter, List.countP_eq_length_filter]
  exact within.length_le

end Edge

namespace Chain

open Edge (departures arrivals Balanced Unreversed)

variable {edges : List Edge} {chains : List Chain} {first last edge : Edge} {walked : Chain}
  {unused : EdgePool}

/-- A path leaves every vertex as often as it reaches it, apart from its ends. -/
theorem Leads.departures_add {v w : Vertex} {chain : Chain} (leads : Leads v chain w) (u : Vertex) :
    departures chain u + (if w = u then 1 else 0) = arrivals chain u + (if v = u then 1 else 0) := by
  induction chain generalizing v with
  | nil =>
      change v = w at leads
      rw [leads]
      rfl
  | cons edge rest later =>
      have onward := later leads.2
      unfold departures arrivals at onward ⊢
      rw [List.countP_cons, List.countP_cons, leads.1]
      simp only [decide_eq_true_eq]
      omega

theorem Closed.balanced {chain : Chain} (closed : chain.Closed) : Balanced chain := by
  apply Edge.balanced_of_perm
  rw [closed]
  exact Loop.rotated_perm _

theorem balanced_flatten (closed : forall chain, chain ∈ chains -> chain ≠ [] ∧ chain.Closed) :
    Balanced chains.flatten := by
  intro v
  induction chains with
  | nil => rfl
  | cons chain rest later =>
      have here := (closed chain List.mem_cons_self).2.balanced v
      have others := later fun other member => closed other (List.mem_cons_of_mem _ member)
      rw [List.flatten_cons, Edge.departures_append, Edge.arrivals_append, here, others]

/-- An edge on offer that does not turn back is a way to go on. -/
theorem next?_ne_none (offered : edge = first ∨ unused.contains edge = true)
    (starts : edge.start = last.finish) (onward : edge.direction ≠ last.direction.opposite) :
    next? first last unused ≠ none := by
  intro none
  have preferred : edge.direction ∈ preferences last.direction := by
    revert onward
    unfold preferences
    cases edge.direction <;> cases last.direction <;> decide
  have listed : edge ∈ (preferences last.direction).map fun direction => ⟨last.finish, direction⟩ := by
    rw [← starts]
    exact List.mem_map_of_mem preferred
  apply List.find?_eq_none.mp none edge listed
  simpa only [Bool.or_eq_true, decide_eq_true_eq] using offered

namespace Underway

theorem count_le (underway : Underway edges chains first last walked unused) (edge : Edge) :
    (walked ++ chains.flatten).count edge ≤ edges.count edge := by
  have counts := underway.counts edge
  omega

/-- The edges that are used up are balanced, apart from the ends of the open chain. -/
theorem departures_add (underway : Underway edges chains first last walked unused) (v : Vertex) :
    departures (walked ++ chains.flatten) v + (if last.finish = v then 1 else 0) =
      arrivals (walked ++ chains.flatten) v + (if first.start = v then 1 else 0) := by
  have path := underway.leads.departures_add v
  have whole := balanced_flatten underway.closed v
  rw [Edge.departures_reverse, Edge.arrivals_reverse] at path
  rw [Edge.departures_append, Edge.arrivals_append]
  omega

/-- At the end of an open chain an unused edge leads on. -/
theorem exists_unused (underway : Underway edges chains first last walked unused)
    (balanced : Balanced edges) (isOpen : first.start ≠ last.finish) :
    Exists fun edge => edge.start = last.finish ∧ unused.contains edge = true := by
  by_contra none
  have usedUp : departures edges last.finish ≤ departures (walked ++ chains.flatten) last.finish := by
    apply Edge.departures_le
    intro edge starts
    have counts := underway.counts edge
    have gone : ¬ unused.contains edge = true := fun held => none ⟨edge, starts, held⟩
    rw [EdgePool.contains_iff] at gone
    omega
  have reached : arrivals (walked ++ chains.flatten) last.finish ≤ arrivals edges last.finish :=
    (List.subperm_ext_iff.mpr fun edge _ => underway.count_le edge).countP_le _
  have ends := underway.departures_add last.finish
  have whole := balanced last.finish
  rw [if_pos rfl, if_neg isOpen] at ends
  omega

theorem mem_of_mem_walked (underway : Underway edges chains first last walked unused)
    (member : edge ∈ walked) : edge ∈ edges := by
  apply List.count_pos_iff.mp
  have counts := underway.count_le edge
  have listed := List.count_pos_iff.mpr member
  rw [List.count_append] at counts
  omega

/-- Nothing that is on offer turns back. -/
theorem direction_ne_opposite (underway : Underway edges chains first last walked unused)
    (unreversed : Unreversed edges) (starts : edge.start = last.finish) (member : edge ∈ edges) :
    edge.direction ≠ last.direction.opposite := by
  intro back
  have same : edge = last.reverse := by
    rcases edge with ⟨start, direction⟩
    cases starts
    cases back
    rfl
  exact unreversed last (underway.mem_of_mem_walked underway.last_mem) (same ▸ member)

theorem next?_ne_none (underway : Underway edges chains first last walked unused)
    (balanced : Balanced edges) (unreversed : Unreversed edges) :
    next? first last unused ≠ none := by
  by_cases back : first.start = last.finish
  · have member := underway.mem_of_mem_walked underway.first_mem
    exact Chain.next?_ne_none (Or.inl rfl) back
      (underway.direction_ne_opposite unreversed back member)
  · rcases underway.exists_unused balanced back with ⟨edge, starts, held⟩
    have member : edge ∈ edges := by
      apply List.count_pos_iff.mp
      have counts := underway.counts edge
      have positive := EdgePool.contains_iff.mp held
      omega
    exact Chain.next?_ne_none (Or.inr held) starts
      (underway.direction_ne_opposite unreversed starts member)

end Underway

/-- Balanced edges without reverses never get stuck. -/
theorem not_stuck (balanced : Balanced edges) (unreversed : Unreversed edges) (v : Vertex) :
    ¬ Stuck edges v := by
  rintro ⟨chains, first, last, walked, unused, underway, none, _⟩
  exact underway.next?_ne_none balanced unreversed none

end Chain

namespace Mask

/-- Following the boundary permutes its edges. -/
theorem map_follow_perm (mask : Mask) : (mask.boundary.map mask.follow).Perm mask.boundary := by
  have distinct : (mask.boundary.map mask.follow).Nodup :=
    mask.nodup_boundary.map_on fun _ memberA _ memberB same => follow_injective memberA memberB same
  have within : mask.boundary.map mask.follow ⊆ mask.boundary := by
    intro edge member
    rcases List.mem_map.mp member with ⟨previous, previousMember, rfl⟩
    exact follow_mem_boundary previousMember
  exact (distinct.subperm within).perm_of_length_le (Nat.le_of_eq (List.length_map _).symm)

/-- The boundary reaches every vertex as often as it leaves it. -/
theorem balanced_boundary (mask : Mask) : Edge.Balanced mask.boundary := by
  apply Edge.balanced_of_perm
  have starts := mask.map_follow_perm.map Edge.start
  rw [List.map_map] at starts
  have sameEnds : mask.boundary.map Edge.finish = mask.boundary.map (Edge.start ∘ mask.follow) :=
    List.map_congr_left fun edge _ => (mask.follow_start edge).symm
  rw [sameEnds]
  exact starts

theorem unreversed_boundary (mask : Mask) : Edge.Unreversed mask.boundary :=
  fun _ => reverse_not_mem_boundary

end Mask

theorem Loop.exists_ofEdges {edges : List Edge} (balanced : Edge.Balanced edges)
    (unreversed : Edge.Unreversed edges) :
    Exists fun loops => Loop.ofEdges edges = .ok loops := by
  rcases Chain.ofEdges_outcome edges with ⟨chains, joined, _⟩ | ⟨v, _, stuck⟩
  · refine ⟨chains.map Chain.toLoop, ?_⟩
    unfold Loop.ofEdges
    rw [joined]
  · exact absurd stuck (Chain.not_stuck balanced unreversed v)

/-- Edges that leave every vertex as often as they reach it, and of which none is
listed with its reverse, are joined into loops without a failure, in whatever
order and however often they are listed.  The boundary of every mask is of this
kind, so tracing a mask does not fail. -/
theorem Loop.ofEdges_succeeds :
    (forall edges : List Edge, Edge.Balanced edges -> Edge.Unreversed edges ->
      Exists fun loops => Loop.ofEdges edges = .ok loops) ∧
    forall mask : Mask, Edge.Balanced mask.boundary ∧ Edge.Unreversed mask.boundary ∧
      Exists fun loops => mask.outline = .ok loops :=
  ⟨fun _ balanced unreversed => Loop.exists_ofEdges balanced unreversed,
    fun mask => ⟨mask.balanced_boundary, mask.unreversed_boundary,
      Loop.exists_ofEdges mask.balanced_boundary mask.unreversed_boundary⟩⟩

/-- The sides of a cell, each listed twice, and those of the cell diagonally below
it, in no particular order. -/
def knottedEdges : List Edge :=
  [⟨⟨1, 1⟩, .west⟩, ⟨⟨1, 1⟩, .east⟩, ⟨⟨0, 1⟩, .north⟩, ⟨⟨0, 0⟩, .east⟩, ⟨⟨1, 0⟩, .south⟩,
    ⟨⟨0, 0⟩, .east⟩, ⟨⟨2, 1⟩, .south⟩, ⟨⟨1, 0⟩, .south⟩, ⟨⟨1, 2⟩, .north⟩, ⟨⟨0, 1⟩, .north⟩,
    ⟨⟨2, 2⟩, .west⟩, ⟨⟨1, 1⟩, .west⟩]

theorem Loop.ofEdges_knottedEdges :
    Edge.Balanced knottedEdges ∧ Edge.Unreversed knottedEdges ∧
      Exists fun loops => Loop.ofEdges knottedEdges = .ok loops := by
  have balanced : Edge.Balanced knottedEdges := Edge.balanced_of_perm (by decide)
  have unreversed : Edge.Unreversed knottedEdges := by decide
  exact ⟨balanced, unreversed, Loop.ofEdges_succeeds.1 knottedEdges balanced unreversed⟩

end BattleMap
