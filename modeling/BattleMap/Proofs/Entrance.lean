import BattleMap.Proofs.Separation

namespace BattleMap

/-!
# Where a loop starts

A loop starts at the vertex that reads first among all vertices of its chain.
The chain comes to this vertex only once: of two edges that leave it one would
run east, with cells on its right that the chain winds around, and the other one
south, with cells on its right that it does not.  So the edge with which the loop
starts is determined by the edges of the chain, and since each edge determines
the next one, so is the loop.  Neither the edge at which the walk began nor the
time at which it was made leaves a trace in it.
-/

/-- The edges of a chain in the order in which its loop runs through them. -/
structure Enters (mask : Mask) (chain : Chain) (first : Edge) (rest : Chain) : Prop where
  edges : (first :: rest).Perm chain
  turns : (first :: rest).map mask.follow = Loop.rotated (first :: rest)
  points : chain.toLoop.points = first.start :: Chain.cornersFrom first.direction rest
  corner : Chain.headingAfter first.direction rest ≠ first.direction
  topmost : forall other, other ∈ chain -> Chain.readsBefore other.start first.start = false

namespace Enters

variable {mask : Mask} {chain rest : Chain} {first : Edge}

theorem mem (enters : Enters mask chain first rest) : first ∈ chain :=
  enters.edges.subset List.mem_cons_self

theorem leads (enters : Enters mask chain first rest) :
    Chain.Leads first.start (first :: rest) first.start :=
  (Mask.closed_of_turns enters.turns).leads

theorem unitSteps (enters : Enters mask chain first rest) :
    chain.toLoop.unitSteps = (first :: rest).map Edge.ends :=
  Chain.unitSteps_of_points enters.points enters.leads

/-- From each edge at which the chain turns a side runs straight ahead to the next one. -/
theorem ahead (enters : Enters mask chain first rest) (pair : Edge × Edge)
    (member : pair ∈ (first :: Chain.turningFrom first.direction rest).zip
      (Loop.rotated (first :: Chain.turningFrom first.direction rest))) :
    Ahead pair.1.direction pair.1.start pair.2.start := by
  apply Chain.ahead_of_mem_zip_turningFrom first first 0 rest _ pair member
  rw [Direction.along_one]
  exact enters.leads.2

end Enters

namespace Traced

variable {mask : Mask} {chains others : List Chain} {chain other : Chain} {edge : Edge}

theorem exists_enters (traced : Traced mask chains) (listed : chain ∈ chains) :
    Exists fun first => Exists fun rest => Enters mask chain first rest := by
  rcases Chain.exists_entry (traced.closed listed) (traced.nonempty chain listed) with
    ⟨before, first, after, equal, corner, points, top⟩
  refine ⟨first, after ++ before, ?_, ?_, points, corner, ?_⟩
  · rw [equal]
    exact Loop.perm_at before after first
  · exact Loop.turns_at (equal ▸ traced.orbit chain listed)
  · exact fun other member => traced.not_readsBefore listed top member

/-- The unit steps of a loop are the edges of its chain. -/
theorem ends_mem_unitSteps (traced : Traced mask chains) (listed : chain ∈ chains) :
    edge.ends ∈ chain.toLoop.unitSteps ↔ edge ∈ chain := by
  rcases traced.exists_enters listed with ⟨first, rest, enters⟩
  rw [enters.unitSteps, ← enters.edges.mem_iff, List.mem_map]
  constructor
  · rintro ⟨other, member, same⟩
    exact Edge.ends_injective same ▸ member
  · exact fun member => ⟨edge, member, rfl⟩

/-- Only one edge of a chain starts at the vertex that reads first. -/
theorem eq_of_topmost (traced : Traced mask chains) (listed : chain ∈ chains) {first second : Edge}
    (member : first ∈ chain) (memberSecond : second ∈ chain)
    (topmost : forall other, other ∈ chain -> Chain.readsBefore other.start first.start = false)
    (same : second.start = first.start) : second = first := by
  have alike := traced.winding_rightCell_eq listed member memberSecond
  have turn := traced.direction_of_first listed member topmost
  have turnSecond := traced.direction_of_first listed memberSecond (same ▸ topmost)
  rcases first with ⟨start, direction⟩
  rcases second with ⟨startSecond, directionSecond⟩
  cases same
  rcases turn with ⟨heading, outer⟩ | ⟨heading, inner, _⟩ <;>
    rcases turnSecond with ⟨headingSecond, outerSecond⟩ | ⟨headingSecond, innerSecond, _⟩
  · exact congrArg _ (headingSecond.trans heading.symm)
  · omega
  · omega
  · exact congrArg _ (headingSecond.trans heading.symm)

/-- Chains of the same mask that share an edge have all edges in common, also if
they were made from differently listed edges. -/
theorem mem_of_mem (traced : Traced mask chains) (tracedOther : Traced mask others)
    (listed : chain ∈ chains) (listedOther : other ∈ others) (shared : edge ∈ chain)
    (sharedOther : edge ∈ other) : forall entry, entry ∈ chain -> entry ∈ other :=
  Loop.forall_mem_of_next (· ∈ other) (traced.orbit chain listed)
    (fun _ _ member => tracedOther.follow_mem listedOther member) shared sharedOther

/-- Chains of the same mask that share an edge have the same loop. -/
theorem toLoop_eq_of_mem (traced : Traced mask chains) (tracedOther : Traced mask others)
    (listed : chain ∈ chains) (listedOther : other ∈ others) (shared : edge ∈ chain)
    (sharedOther : edge ∈ other) : chain.toLoop = other.toLoop := by
  have within := traced.mem_of_mem tracedOther listed listedOther shared sharedOther
  have back := tracedOther.mem_of_mem traced listedOther listed sharedOther shared
  rcases traced.exists_enters listed with ⟨first, rest, enters⟩
  rcases tracedOther.exists_enters listedOther with ⟨firstOther, restOther, entersOther⟩
  have sameFirst : firstOther = first := by
    apply traced.eq_of_topmost listed enters.mem (back _ entersOther.mem) enters.topmost
    have low := enters.topmost _ (back _ entersOther.mem)
    have high := entersOther.topmost _ (within _ enters.mem)
    rw [Chain.readsBefore_eq_false_iff] at low high
    rcases first with ⟨⟨x, y⟩, direction⟩
    rcases firstOther with ⟨⟨xOther, yOther⟩, directionOther⟩
    simp only [Point.mk.injEq] at low high ⊢
    omega
  subst sameFirst
  have sameRest : rest = restOther :=
    Loop.eq_of_turns enters.turns (enters.edges.nodup_iff.mpr (traced.nodup listed))
      entersOther.turns (entersOther.edges.nodup_iff.mpr (tracedOther.nodup listedOther))
  have points : chain.toLoop.points = other.toLoop.points := by
    rw [enters.points, entersOther.points, sameRest]
  exact congrArg Loop.mk points

end Traced
end BattleMap
