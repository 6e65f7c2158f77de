import Mathlib.Data.List.Perm.Basic
import BattleMap.Proofs.Cyclic
import BattleMap.Proofs.Following

namespace BattleMap

/-!
# Chaining the boundary of a mask

The walk along the boundary of a mask never gets stuck and each of its chains is
an orbit of `Mask.follow`.  What makes this work is that the edges which are not
yet used always form whole orbits: the successor of the last edge can only be
unused or the first edge of the chain, since every edge in between already is
the successor of another one.  So the chains together hold every boundary edge
exactly once.
-/

variable {mask : Mask}

/-- A pool of boundary edges, none of them twice, that holds with an edge the
one behind it. -/
structure HoldsOrbits (mask : Mask) (pool : EdgePool) : Prop where
  on_boundary : forall edge, 0 < pool.multiplicity edge -> edge ∈ mask.boundary
  once : forall edge, pool.multiplicity edge ≤ 1
  closed : forall edge, 0 < pool.multiplicity edge -> 0 < pool.multiplicity (mask.follow edge)

/-- The state of a walk that started with the edges of `pool` at hand: the edges
walked so far lead from `first` to `last`, and the others are unused. -/
structure Walking (mask : Mask) (pool : EdgePool) (first last : Edge) (walked : Chain)
    (unused : EdgePool) : Prop where
  path : Exists fun rest : Chain => walked.reverse = first :: rest ∧
    (first :: rest).map mask.follow = rest ++ [mask.follow last]
  last_mem : last ∈ walked
  counts : forall edge, unused.multiplicity edge + walked.count edge = pool.multiplicity edge

namespace Walking

variable {pool unused : EdgePool} {first last : Edge} {walked : Chain}

theorem mem_boundary_of_mem_walked (whole : HoldsOrbits mask pool)
    (walking : Walking mask pool first last walked unused) {edge : Edge} (member : edge ∈ walked) :
    edge ∈ mask.boundary := by
  apply whole.on_boundary
  rw [← walking.counts edge]
  exact Nat.add_pos_right _ (List.count_pos_iff.mpr member)

theorem first_mem_walked (walking : Walking mask pool first last walked unused) :
    first ∈ walked := by
  rcases walking.path with ⟨rest, path, _⟩
  rw [← List.mem_reverse, path]
  exact List.mem_cons_self

theorem mem_boundary_of_offered (whole : HoldsOrbits mask pool)
    (walking : Walking mask pool first last walked unused) (edge : Edge)
    (offered : edge = first ∨ unused.contains edge = true) : edge ∈ mask.boundary := by
  rcases offered with same | held
  · rw [same]
    exact walking.mem_boundary_of_mem_walked whole walking.first_mem_walked
  · apply whole.on_boundary
    have counts := walking.counts edge
    have positive := EdgePool.contains_iff.mp held
    omega

/-- The walk can go on or close: no edge behind the first one is reached twice. -/
theorem follow_last (whole : HoldsOrbits mask pool)
    (walking : Walking mask pool first last walked unused) :
    mask.follow last = first ∨ unused.contains (mask.follow last) = true := by
  by_cases held : unused.contains (mask.follow last) = true
  · exact Or.inr held
  · apply Or.inl
    rcases walking.path with ⟨rest, path, turns⟩
    have lastHeld : 0 < pool.multiplicity last := by
      rw [← walking.counts last]
      exact Nat.add_pos_right _ (List.count_pos_iff.mpr walking.last_mem)
    have nextWalked : mask.follow last ∈ first :: rest := by
      rw [← path, List.mem_reverse]
      apply List.count_pos_iff.mp
      have counts := walking.counts (mask.follow last)
      have nextHeld := whole.closed last lastHeld
      rw [EdgePool.contains_iff] at held
      omega
    have distinct : (first :: rest).Nodup := by
      apply List.nodup_iff_count_le_one.mpr
      intro edge
      rw [← path, List.count_reverse]
      have counts := walking.counts edge
      have once := whole.once edge
      omega
    have distinctNext : (rest ++ [mask.follow last]).Nodup := by
      rw [← turns]
      apply distinct.map_on
      intro a memberA b memberB same
      rw [← path, List.mem_reverse] at memberA memberB
      exact Mask.follow_injective (walking.mem_boundary_of_mem_walked whole memberA)
        (walking.mem_boundary_of_mem_walked whole memberB) same
    rcases List.mem_cons.mp nextWalked with same | later
    · exact same
    · have apart := (List.nodup_append.mp distinctNext).2.2 _ later _ List.mem_cons_self
      exact absurd rfl apart

/-- One step of the walk. -/
theorem go_on (walking : Walking mask pool first last walked unused)
    (held : unused.contains (mask.follow last) = true) :
    Walking mask pool first (mask.follow last) (mask.follow last :: walked)
      (unused.take (mask.follow last)) where
  path := by
    rcases walking.path with ⟨rest, path, turns⟩
    refine ⟨rest ++ [mask.follow last], ?_, ?_⟩
    · rw [List.reverse_cons, path, List.cons_append]
    · rw [← List.cons_append, List.map_append, turns, List.map_singleton]
  last_mem := List.mem_cons_self
  counts := by
    intro edge
    have counts := walking.counts edge
    have taken := EdgePool.multiplicity_take_add held edge
    rw [List.count_cons]
    simp only [beq_iff_eq]
    omega

theorem chain_of_closing (walking : Walking mask pool first last walked unused)
    (closes : mask.follow last = first) :
    walked.reverse.map mask.follow = Loop.rotated walked.reverse := by
  rcases walking.path with ⟨rest, path, turns⟩
  rw [path, turns, closes]
  rfl

/-- A whole walk: it closes, and its chain is an orbit. -/
theorem walk_eq_ok (whole : HoldsOrbits mask pool)
    (walking : Walking mask pool first last walked unused) :
    Exists fun result : Chain × EdgePool =>
      Chain.walk first last walked unused = .ok result ∧ first ∈ result.1 ∧
        result.1.map mask.follow = Loop.rotated result.1 ∧
        forall edge, result.2.multiplicity edge + result.1.count edge = pool.multiplicity edge := by
  have preferred := Mask.next?_eq_follow (walking.mem_boundary_of_offered whole)
    (walking.follow_last whole)
  fun_induction Chain.walk first last walked unused with
  | case1 last walked unused none =>
      rw [none] at preferred
      cases preferred
  | case2 last walked unused found =>
      rw [found] at preferred
      refine ⟨_, rfl, ?_, walking.chain_of_closing (Option.some.inj preferred).symm, ?_⟩
      · exact List.mem_reverse.mpr walking.first_mem_walked
      · intro edge
        rw [List.count_reverse]
        exact walking.counts edge
  | case3 last walked unused edge found goesOn walks =>
      rw [found] at preferred
      have next := Option.some.inj preferred
      subst next
      have held := (walking.follow_last whole).resolve_left goesOn
      have walking' := walking.go_on held
      exact walks walking' (Mask.next?_eq_follow (walking'.mem_boundary_of_offered whole)
        (walking'.follow_last whole))

end Walking

/-- What holds between two chains: the chains made so far are orbits, and they
share the boundary with the unused edges. -/
structure Chained (mask : Mask) (made : List Chain × EdgePool) : Prop where
  orbits : forall chain, chain ∈ made.1 ->
    chain ≠ [] ∧ chain.map mask.follow = Loop.rotated chain
  counts : forall edge,
    made.2.multiplicity edge + made.1.flatten.count edge = mask.boundary.count edge

namespace Chained

variable {made : List Chain × EdgePool}

theorem holdsOrbits (chained : Chained mask made) : HoldsOrbits mask made.2 where
  on_boundary := by
    intro edge held
    apply List.count_pos_iff.mp
    rw [← chained.counts edge]
    exact Nat.add_pos_left held _
  once := by
    intro edge
    have counts := chained.counts edge
    have once := List.nodup_iff_count_le_one.mp mask.nodup_boundary edge
    omega
  closed := by
    intro edge held
    have counts := chained.counts edge
    have countsNext := chained.counts (mask.follow edge)
    have once := List.nodup_iff_count_le_one.mp mask.nodup_boundary edge
    have member : edge ∈ mask.boundary := List.count_pos_iff.mp (by omega)
    have listed := List.count_pos_iff.mpr (Mask.follow_mem_boundary member)
    -- If the successor were in a chain, the edge would be its predecessor there.
    by_contra used
    have chainedNext : mask.follow edge ∈ made.1.flatten := List.count_pos_iff.mp (by omega)
    rcases List.mem_flatten.mp chainedNext with ⟨chain, made, nextMember⟩
    rcases Loop.exists_previous (chained.orbits chain made).2 nextMember with
      ⟨previous, previousMember, same⟩
    have inFlatten := List.mem_flatten.mpr ⟨chain, made, previousMember⟩
    have onBoundary : previous ∈ mask.boundary := by
      apply List.count_pos_iff.mp
      rw [← chained.counts previous]
      exact Nat.add_pos_right _ (List.count_pos_iff.mpr inFlatten)
    rw [Mask.follow_injective onBoundary member same] at inFlatten
    have positive := List.count_pos_iff.mpr inFlatten
    omega

/-- One visited edge: afterwards it is part of a chain, and no edge was given
back. -/
theorem addChain_eq_ok (chained : Chained mask made) (edge : Edge) :
    Exists fun made' => Chain.addChain made edge = .ok made' ∧ Chained mask made' ∧
      made'.2.multiplicity edge = 0 ∧
      forall other, made'.2.multiplicity other ≤ made.2.multiplicity other := by
  rcases made with ⟨chains, unused⟩
  unfold Chain.addChain
  by_cases held : unused.contains edge = true
  · have whole := chained.holdsOrbits
    have walking : Walking mask unused edge edge [edge] (unused.take edge) := {
      path := ⟨[], rfl, rfl⟩
      last_mem := List.mem_cons_self
      counts := by
        intro other
        rw [List.count_singleton]
        simp only [beq_iff_eq]
        exact EdgePool.multiplicity_take_add held other }
    rcases walking.walk_eq_ok whole with ⟨⟨chain, left⟩, walks, member, turns, counts⟩
    refine ⟨(chain :: chains, left), ?_, ⟨?_, ?_⟩, ?_, ?_⟩
    · simp only [if_pos held, walks]
      rfl
    · intro other listed
      rcases List.mem_cons.mp listed with same | earlier
      · rw [same]
        exact ⟨List.ne_nil_of_mem member, turns⟩
      · exact chained.orbits other earlier
    · intro other
      have countsOther := counts other
      have before := chained.counts other
      simp only [List.flatten_cons, List.count_append] at before countsOther ⊢
      omega
    · have countsEdge := counts edge
      have once := whole.once edge
      have inChain := List.count_pos_iff.mpr member
      simp only at countsEdge inChain once ⊢
      omega
    · intro other
      have countsOther := counts other
      simp only at countsOther ⊢
      omega
  · refine ⟨(chains, unused), ?_, chained, ?_, fun _ => Nat.le_refl _⟩
    · simp only [if_neg held]
      rfl
    · rw [EdgePool.contains_iff] at held
      exact Nat.eq_zero_of_not_pos held

/-- All edges of a list visited in turn. -/
theorem foldlM_addChain_eq_ok (edges : List Edge) (chained : Chained mask made) :
    Exists fun made' => edges.foldlM Chain.addChain made = .ok made' ∧ Chained mask made' ∧
      (forall edge, edge ∈ edges -> made'.2.multiplicity edge = 0) ∧
      forall other, made'.2.multiplicity other ≤ made.2.multiplicity other := by
  induction edges generalizing made with
  | nil =>
      refine ⟨made, rfl, chained, ?_, fun _ => Nat.le_refl _⟩
      intro edge member
      cases member
  | cons edge rest later =>
      rcases chained.addChain_eq_ok edge with ⟨middle, added, chainedMiddle, used, fewer⟩
      rcases later chainedMiddle with ⟨made', folded, chainedAfter, restUsed, fewerAfter⟩
      refine ⟨made', ?_, chainedAfter, ?_, ?_⟩
      · rw [List.foldlM_cons, added]
        exact folded
      · intro other member
        rcases List.mem_cons.mp member with same | later
        · rw [same]
          exact Nat.eq_zero_of_le_zero (used ▸ fewerAfter edge)
        · exact restUsed other later
      · intro other
        exact Nat.le_trans (fewerAfter other) (fewer other)

end Chained

/-- The boundary of a mask is chained without a failure, in whatever order its
edges are listed.  The chains are orbits and hold every boundary edge once. -/
theorem Chain.ofEdges_of_perm {edges : List Edge} (listed : edges.Perm mask.boundary) :
    Exists fun chains => Chain.ofEdges edges = .ok chains ∧
      chains.flatten.Perm mask.boundary ∧
      forall chain, chain ∈ chains ->
        chain ≠ [] ∧ chain.map mask.follow = Loop.rotated chain := by
  have start : Chained mask ([], EdgePool.ofList edges) := {
    orbits := fun _ member => by cases member
    counts := by
      intro edge
      rw [EdgePool.multiplicity_ofList, listed.count_eq]
      rfl }
  rcases start.foldlM_addChain_eq_ok edges with ⟨⟨chains, unused⟩, folded, chained, used, _⟩
  refine ⟨chains.reverse, ?_, ?_, ?_⟩
  · unfold Chain.ofEdges
    rw [folded]
    rfl
  · have sameEdges : chains.flatten.Perm mask.boundary := by
      apply List.perm_iff_count.mpr
      intro edge
      rw [← chained.counts edge]
      by_cases member : edge ∈ edges
      · rw [used edge member, Nat.zero_add]
      · have counts := chained.counts edge
        rw [← listed.count_eq, List.count_eq_zero_of_not_mem member] at counts
        simp only at counts ⊢
        omega
    exact (List.reverse_perm chains).flatten.trans sameEdges
  · intro chain member
    exact chained.orbits chain (List.mem_reverse.mp member)

end BattleMap
