import Mathlib.Data.List.Nodup
import BattleMap.Proofs.Joining
import BattleMap.Proofs.Outcome

namespace BattleMap
namespace Chain

/-!
# The order in which chains are made

Edges of which none is listed twice are visited one after the other, and a chain
begins with an edge that is still unused when it is visited.  By then all edges
before it are used, so of the edges of its chain it is the one that is listed
first.  The chains are therefore made in the order of these edges.
-/

variable {edges done todo : List Edge} {edge : Edge} {chain : Chain} {chains : List Chain}
  {made made' : List Chain × EdgePool}

/-- The place in a list of edges where an edge of a chain stands for the first time. -/
def earliest (edges : List Edge) (chain : Chain) : Nat :=
  edges.findIdx fun edge => edge ∈ chain

theorem earliest_eq_length (fresh : forall other, other ∈ done -> other ∉ chain)
    (member : edge ∈ chain) : earliest (done ++ edge :: todo) chain = done.length := by
  have none : done.findIdx (fun other => other ∈ chain) = done.length :=
    List.findIdx_eq_length.mpr fun other listed => decide_eq_false (fresh other listed)
  unfold earliest
  rw [List.findIdx_append, none, if_neg (Nat.lt_irrefl _), List.findIdx_cons, decide_eq_true member]
  exact Nat.zero_add _

/-- The state of the work when some of the edges have been visited: these are used,
and the chains, of which the latest comes first, begin with some of them. -/
structure Visited (edges done : List Edge) (made : List Chain × EdgePool) : Prop where
  shared : Shared edges made
  used : forall edge, edge ∈ done -> made.2.multiplicity edge = 0
  begun : forall chain, chain ∈ made.1 -> earliest edges chain < done.length
  ordered : made.1.Pairwise fun later sooner => earliest edges sooner < earliest edges later

namespace Visited

/-- A further chain has none of the edges that were visited before. -/
theorem not_mem_of_mem_done (visited : Visited edges done made) (shared : Shared edges made')
    (added : made'.1 = chain :: made.1) (edge : Edge) (member : edge ∈ done) : edge ∉ chain := by
  rcases made with ⟨chains, unused⟩
  rcases made' with ⟨_, left⟩
  cases added
  have counts := visited.shared.multiplicity_add_count shared edge
  have none := visited.used edge member
  intro listed
  have positive := List.count_pos_iff.mpr listed
  simp only at none
  omega

/-- One visited edge. -/
theorem visit (visited : Visited (done ++ edge :: todo) done made)
    (distinct : (done ++ edge :: todo).Nodup) (added : addChain made edge = .ok made') :
    Visited (done ++ edge :: todo) (done ++ [edge]) made' := by
  rcases visited.shared.addChain_outcome edge with ⟨_, same, shared, chains, fewer⟩ | ⟨v, fails, _⟩
  · rw [added] at same
    cases same
    have longer : done.length < (done ++ [edge]).length := by
      rw [List.length_append]
      exact Nat.lt_succ_self _
    have used : forall other, other ∈ done ++ [edge] -> made'.2.multiplicity other = 0 := by
      intro other member
      have bound := fewer other
      rcases List.mem_append.mp member with earlier | now
      · rw [visited.used other earlier] at bound
        omega
      · have once := List.nodup_iff_count_le_one.mp distinct edge
        have counts := visited.shared.counts edge
        rw [List.mem_singleton.mp now] at bound ⊢
        rw [if_pos rfl] at bound
        omega
    rcases chains with same | ⟨chain, same, member⟩
    · refine ⟨shared, used, ?_, same ▸ visited.ordered⟩
      rw [same]
      exact fun chain listed => Nat.lt_trans (visited.begun chain listed) longer
    · have place : earliest (done ++ edge :: todo) chain = done.length :=
        earliest_eq_length (visited.not_mem_of_mem_done shared same) member
      refine ⟨shared, used, ?_, ?_⟩
      · rw [same, List.forall_mem_cons, place]
        exact ⟨longer, fun chain listed => Nat.lt_trans (visited.begun chain listed) longer⟩
      · rw [same, List.pairwise_cons, place]
        exact ⟨visited.begun, visited.ordered⟩
  · rw [added] at fails
    cases fails

/-- All edges visited in turn. -/
theorem foldlM_addChain (visited : Visited (done ++ todo) done made)
    (distinct : (done ++ todo).Nodup) (folded : todo.foldlM addChain made = .ok made') :
    Visited (done ++ todo) (done ++ todo) made' := by
  induction todo generalizing done made with
  | nil =>
      cases folded
      rw [List.append_nil] at visited ⊢
      exact visited
  | cons edge rest later =>
      rw [List.foldlM_cons] at folded
      rcases Outcome.bind_eq_ok.mp folded with ⟨middle, added, folded⟩
      have visitedMiddle := visited.visit distinct added
      have split : done ++ edge :: rest = (done ++ [edge]) ++ rest := by
        rw [List.append_assoc]
        rfl
      rw [split] at visitedMiddle distinct ⊢
      exact later visitedMiddle distinct folded

end Visited

/-- Chains are listed in the order of their earliest edges. -/
theorem pairwise_earliest (distinct : edges.Nodup) (joined : ofEdges edges = .ok chains) :
    (forall chain, chain ∈ chains -> earliest edges chain < edges.length) ∧
      chains.Pairwise fun sooner later => earliest edges sooner < earliest edges later := by
  have start : Visited ([] ++ edges) [] ([], EdgePool.ofList edges) := {
    shared := {
      closed := fun _ member => by cases member
      counts := EdgePool.multiplicity_ofList edges }
    used := fun _ member => by cases member
    begun := fun _ member => by cases member
    ordered := List.Pairwise.nil }
  rcases Outcome.bind_eq_ok.mp joined with ⟨⟨reversed, unused⟩, folded, done⟩
  cases done
  have visited := start.foldlM_addChain distinct folded
  exact ⟨fun chain listed => visited.begun chain (List.mem_reverse.mp listed),
    List.pairwise_reverse.mpr visited.ordered⟩

end Chain
end BattleMap
