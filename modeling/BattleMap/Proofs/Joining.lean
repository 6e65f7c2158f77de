import Mathlib.Data.List.Perm.Basic
import BattleMap.Proofs.Paths

namespace BattleMap

/-!
# Joining any edges into chains

Nothing is assumed here about the edges that are joined: they may come in any
order, several times, and without closing anything.  At every moment the unused
edges, the open chain and the chains made before share the given edges among
them, and the open chain leads from the start of its first edge to where it
stands.  So either all edges end up in closed chains, each as often as it was
given, or the work stops with a chain that can neither go on nor close.
-/

namespace Chain

variable {edges : List Edge} {chains : List Chain} {first last edge : Edge} {walked : Chain}
  {unused : EdgePool} {made : List Chain × EdgePool}

theorem start_of_next?_eq_some (found : next? first last unused = some edge) :
    edge.start = last.finish := by
  rcases List.mem_map.mp (List.mem_of_find?_eq_some found) with ⟨_, _, same⟩
  rw [← same]

theorem closed_of_leads {v : Vertex} {chain : Chain} (leads : Leads v chain v) : chain.Closed := by
  have linked : forall (rest : Chain) (one : Edge) (u w : Vertex), Leads u (one :: rest) w ->
      (one :: rest).map Edge.finish = rest.map Edge.start ++ [w] := by
    intro rest
    induction rest with
    | nil =>
        intro one u w leads
        exact congrArg (fun v => [v]) leads.2
    | cons next rest later =>
        intro one u w leads
        rw [List.map_cons, later next _ _ leads.2, List.map_cons, List.cons_append, ← leads.2.1]
  cases chain with
  | nil => rfl
  | cons one rest =>
      have same := linked rest one v v leads
      rw [← leads.1] at same
      exact same

/-- The chains made so far are closed, and with the unused edges they share the
edges that were given. -/
structure Shared (edges : List Edge) (made : List Chain × EdgePool) : Prop where
  closed : forall chain, chain ∈ made.1 -> chain ≠ [] ∧ chain.Closed
  counts : forall edge,
    made.2.multiplicity edge + made.1.flatten.count edge = edges.count edge

/-- The state of a walk behind the given chains: the edges walked so far lead from
the start of the first one to the end of the last one. -/
structure Underway (edges : List Edge) (chains : List Chain) (first last : Edge) (walked : Chain)
    (unused : EdgePool) : Prop where
  closed : forall chain, chain ∈ chains -> chain ≠ [] ∧ chain.Closed
  leads : Leads first.start walked.reverse last.finish
  first_mem : first ∈ walked
  last_mem : last ∈ walked
  counts : forall edge,
    unused.multiplicity edge + (walked ++ chains.flatten).count edge = edges.count edge

/-- A walk that can neither go on nor close has come to the given vertex. -/
def Stuck (edges : List Edge) (v : Vertex) : Prop :=
  Exists fun chains => Exists fun first => Exists fun last => Exists fun walked =>
    Exists fun unused => Underway edges chains first last walked unused ∧
      next? first last unused = none ∧ v = last.finish

namespace Underway

/-- A walk starts with an edge that is taken out of the unused ones. -/
theorem start (shared : Shared edges (chains, unused)) (held : unused.contains edge = true) :
    Underway edges chains edge edge [edge] (unused.take edge) where
  closed := shared.closed
  leads := ⟨rfl, rfl⟩
  first_mem := List.mem_cons_self
  last_mem := List.mem_cons_self
  counts := by
    intro other
    have before := shared.counts other
    have taken := EdgePool.multiplicity_take_add held other
    rw [List.count_append, List.count_singleton]
    simp only [beq_iff_eq] at before ⊢
    omega

/-- One step of a walk takes an unused edge. -/
theorem go_on (underway : Underway edges chains first last walked unused)
    (found : next? first last unused = some edge) (goesOn : edge ≠ first) :
    Underway edges chains first edge (edge :: walked) (unused.take edge) where
  closed := underway.closed
  leads := by
    rw [List.reverse_cons]
    exact (leads_append _ _).mpr ⟨_, underway.leads, start_of_next?_eq_some found, rfl⟩
  first_mem := List.mem_cons_of_mem _ underway.first_mem
  last_mem := List.mem_cons_self
  counts := by
    intro other
    have before := underway.counts other
    have taken := EdgePool.multiplicity_take_add (contains_of_next?_eq_some found goesOn) other
    rw [List.cons_append, List.count_cons]
    simp only [beq_iff_eq]
    omega

/-- A walk that comes back to its first edge has made one more closed chain. -/
theorem close (underway : Underway edges chains first last walked unused)
    (found : next? first last unused = some first) :
    Shared edges (walked.reverse :: chains, unused) where
  closed := by
    intro chain member
    rcases List.mem_cons.mp member with same | earlier
    · have leads := underway.leads
      rw [← start_of_next?_eq_some found] at leads
      rw [same]
      exact ⟨List.ne_nil_of_mem (List.mem_reverse.mpr underway.first_mem), closed_of_leads leads⟩
    · exact underway.closed chain earlier
  counts := by
    intro edge
    rw [List.flatten_cons, List.count_append, List.count_reverse, ← List.count_append]
    exact underway.counts edge

/-- A whole walk makes one more closed chain, or it gets stuck. -/
theorem walk_outcome (underway : Underway edges chains first last walked unused) :
    (Exists fun result : Chain × EdgePool => walk first last walked unused = .ok result ∧
      first ∈ result.1 ∧ Shared edges (result.1 :: chains, result.2)) ∨
    (Exists fun v => walk first last walked unused = .error v ∧ Stuck edges v) := by
  fun_induction walk first last walked unused with
  | case1 last walked unused none =>
      exact Or.inr ⟨_, rfl, chains, first, last, walked, unused, underway, none, rfl⟩
  | case2 last walked unused found =>
      exact Or.inl ⟨_, rfl, List.mem_reverse.mpr underway.first_mem, underway.close found⟩
  | case3 last walked unused edge found goesOn walks => exact walks (underway.go_on found goesOn)

end Underway

namespace Shared

/-- A further chain uses up only edges that were left. -/
theorem multiplicity_add_count {chain : Chain} {left : EdgePool}
    (shared : Shared edges (chains, unused)) (onward : Shared edges (chain :: chains, left))
    (edge : Edge) :
    left.multiplicity edge + chain.count edge = unused.multiplicity edge := by
  have before := shared.counts edge
  have behind := onward.counts edge
  simp only [List.flatten_cons, List.count_append] at before behind
  omega

/-- Visiting an edge adds at most one chain, with that edge in it.  It uses up one
of the occurrences of the edge, unless none is left, and gives no edge back; or
the walk from it gets stuck. -/
theorem addChain_outcome (shared : Shared edges made) (edge : Edge) :
    (Exists fun made' => addChain made edge = .ok made' ∧ Shared edges made' ∧
      (made'.1 = made.1 ∨ Exists fun chain => made'.1 = chain :: made.1 ∧ edge ∈ chain) ∧
      forall other, made'.2.multiplicity other ≤
        made.2.multiplicity other - if edge = other then 1 else 0) ∨
    (Exists fun v => addChain made edge = .error v ∧ Stuck edges v) := by
  rcases made with ⟨chains, unused⟩
  unfold addChain
  by_cases held : unused.contains edge = true
  · simp only [if_pos held]
    rcases (Underway.start shared held).walk_outcome with ⟨⟨chain, left⟩, walks, member, onward⟩ |
      ⟨v, fails, stuck⟩
    · dsimp only at member onward
      refine Or.inl ⟨(chain :: chains, left), ?_, onward, Or.inr ⟨chain, rfl, member⟩, ?_⟩
      · rw [walks]
        rfl
      · intro other
        have used := shared.multiplicity_add_count onward other
        by_cases same : edge = other
        · have listed := List.count_pos_iff.mpr member
          rw [same] at listed
          simp only [if_pos same] at used ⊢
          omega
        · simp only [if_neg same] at used ⊢
          omega
    · refine Or.inr ⟨v, ?_, stuck⟩
      rw [fails]
      rfl
  · simp only [if_neg held]
    refine Or.inl ⟨(chains, unused), rfl, shared, Or.inl rfl, ?_⟩
    intro other
    by_cases same : edge = other
    · rw [EdgePool.contains_iff, same] at held
      simp only [if_pos same]
      omega
    · simp only [if_neg same]
      omega

/-- Visiting edges that include all that are left uses up every edge, unless a
walk gets stuck. -/
theorem foldlM_addChain_outcome (todo : List Edge) (shared : Shared edges made)
    (ahead : forall edge, made.2.multiplicity edge ≤ todo.count edge) :
    (Exists fun made' => todo.foldlM addChain made = .ok made' ∧ Shared edges made' ∧
      forall edge, made'.2.multiplicity edge = 0) ∨
    (Exists fun v => todo.foldlM addChain made = .error v ∧ Stuck edges v) := by
  induction todo generalizing made with
  | nil => exact Or.inl ⟨made, rfl, shared, fun edge => Nat.eq_zero_of_le_zero (ahead edge)⟩
  | cons edge rest later =>
      rw [List.foldlM_cons]
      rcases shared.addChain_outcome edge with ⟨middle, added, sharedMiddle, _, used⟩ |
        ⟨v, fails, stuck⟩
      · have aheadMiddle : forall other, middle.2.multiplicity other ≤ rest.count other := by
          intro other
          have visited := used other
          have bound := ahead other
          rw [List.count_cons] at bound
          simp only [beq_iff_eq] at bound
          omega
        rw [added]
        exact later sharedMiddle aheadMiddle
      · refine Or.inr ⟨v, ?_, stuck⟩
        rw [fails]
        rfl

end Shared

/-- Joining edges makes closed chains with exactly these edges, each as often as
it was given, or it fails where a walk gets stuck. -/
theorem ofEdges_outcome (edges : List Edge) :
    (Exists fun chains => ofEdges edges = .ok chains ∧ chains.flatten.Perm edges ∧
      forall chain, chain ∈ chains -> chain ≠ [] ∧ chain.Closed) ∨
    (Exists fun v => ofEdges edges = .error v ∧ Stuck edges v) := by
  have start : Shared edges ([], EdgePool.ofList edges) := {
    closed := fun _ member => by cases member
    counts := EdgePool.multiplicity_ofList edges }
  have ahead : forall edge, (EdgePool.ofList edges).multiplicity edge ≤ edges.count edge :=
    fun edge => Nat.le_of_eq (EdgePool.multiplicity_ofList edges edge)
  unfold ofEdges
  rcases start.foldlM_addChain_outcome edges ahead with ⟨⟨chains, unused⟩, folded, shared, none⟩ |
    ⟨v, fails, stuck⟩
  · refine Or.inl ⟨chains.reverse, ?_, ?_, ?_⟩
    · rw [folded]
      rfl
    · have sameEdges : chains.flatten.Perm edges := by
        apply List.perm_iff_count.mpr
        intro edge
        rw [← shared.counts edge, none edge, Nat.zero_add]
      exact (List.reverse_perm chains).flatten.trans sameEdges
    · intro chain member
      exact shared.closed chain (List.mem_reverse.mp member)
  · refine Or.inr ⟨v, ?_, stuck⟩
    rw [fails]
    rfl

end Chain
end BattleMap
