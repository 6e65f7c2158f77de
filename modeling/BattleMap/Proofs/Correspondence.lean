import BattleMap.Proofs.Orientation
import BattleMap.Proofs.Ring

namespace BattleMap

open Regions (Cell Joined)

/-!
# Loops correspond to regions and holes

All cells on the right of a chain belong to one region, and all cells on its left
to one class of unfilled cells, corners included: where the chain turns right,
the cells on its left touch at least at a corner.  The other way round, the
winding number of a chain is the same everywhere in a region and everywhere in a
class of unfilled cells.  At a vertex where two filled cells meet diagonally this
holds because the chain turns right there and so passes between the filled cells
and not between the unfilled ones.

So an outer boundary belongs to one region and a hole loop to one hole.  Each
region has one outer boundary, the one along the top of its topmost cells, and
each hole has one loop, the one along the bottom of the cells above it.
-/

namespace Traced

variable {mask : Mask} {chains : List Chain} {chain other : Chain} {edge : Edge} {a b : Cell}

/-! ## The cells beside a chain -/

private theorem joined_rightCell_follow (member : edge ∈ mask.boundary) :
    Joined Regions.sideNeighbours mask edge.rightCell (mask.follow edge).rightCell := by
  have followed := (Mask.mem_boundary.mp (Mask.follow_mem_boundary member)).1
  rcases mask.follow_cases edge with ⟨_, next⟩ | ⟨ahead, _, next⟩ | ⟨ahead, left, next⟩
  · rw [next, Edge.rightCell_onward_right]
    exact Relation.ReflTransGen.refl
  · rw [next]
    exact Relation.ReflTransGen.single ⟨edge.rightCell_onward_mem_sideNeighbours, ahead⟩
  · rw [next, Edge.rightCell_onward_left]
    have first : Joined Regions.sideNeighbours mask edge.rightCell
        (edge.onward edge.direction).rightCell :=
      Relation.ReflTransGen.single ⟨edge.rightCell_onward_mem_sideNeighbours, ahead⟩
    exact Relation.ReflTransGen.tail first
      ⟨(edge.onward edge.direction).leftCell_mem_sideNeighbours, left⟩

/-- If each step along a chain joins the cells beside it, the whole chain does. -/
private theorem joined_of_follow (traced : Traced mask chains) (listed : chain ∈ chains)
    {adjacent : Cell -> List Cell} {cells : Mask} (beside : Edge -> Cell)
    (step : forall edge, edge ∈ mask.boundary ->
      Joined adjacent cells (beside edge) (beside (mask.follow edge)))
    {first : Edge} (memberFirst : first ∈ chain) (member : edge ∈ chain) :
    Joined adjacent cells (beside first) (beside edge) := by
  have kept : forall entry, entry ∈ chain -> Joined adjacent cells (beside first) (beside entry) ->
      Joined adjacent cells (beside first) (beside (mask.follow entry)) :=
    fun entry entryMember joined => Relation.ReflTransGen.trans joined
      (step entry (traced.mem_boundary listed entryMember))
  exact Loop.forall_mem_of_next (fun entry => Joined adjacent cells (beside first) (beside entry))
    (traced.orbit chain listed) kept memberFirst Relation.ReflTransGen.refl edge member

/-- All cells on the right of a chain belong to one region. -/
theorem joined_rightCell (traced : Traced mask chains) (listed : chain ∈ chains) {first : Edge}
    (memberFirst : first ∈ chain) (member : edge ∈ chain) :
    Joined Regions.sideNeighbours mask first.rightCell edge.rightCell :=
  traced.joined_of_follow listed Edge.rightCell (fun _ => joined_rightCell_follow) memberFirst member

theorem fills_surroundings_leftCell (member : edge ∈ mask.boundary) :
    mask.surroundings.fills (Mask.outward edge.leftCell) = true := by
  have beside := Mask.mem_boundary.mp member
  have inside := Mask.bounds_of_fills beside.1
  rw [Mask.fills_surroundings, Mask.inward_outward]
  unfold Mask.outward
  rcases edge with ⟨⟨x, y⟩, direction⟩
  cases direction <;> simp only [Edge.rightCell, Edge.leftCell] at beside inside ⊢ <;>
    exact ⟨by omega, by omega, beside.2⟩

private theorem joined_leftCell_follow (member : edge ∈ mask.boundary) :
    Joined Regions.neighbours mask.surroundings (Mask.outward edge.leftCell)
      (Mask.outward (mask.follow edge).leftCell) := by
  have reached := fills_surroundings_leftCell (Mask.follow_mem_boundary member)
  rcases mask.follow_cases edge with ⟨_, next⟩ | ⟨_, _, next⟩ | ⟨_, _, next⟩
  · rw [next, Edge.leftCell_onward_right] at reached ⊢
    apply Relation.ReflTransGen.single
    refine ⟨Mask.mem_neighbours_outward ?_, reached⟩
    exact List.mem_append_right _ edge.rightCell_onward_mem_cornerNeighbours
  · rw [next] at reached ⊢
    apply Relation.ReflTransGen.single
    refine ⟨Mask.mem_neighbours_outward ?_, reached⟩
    exact List.mem_append_left _ edge.leftCell_onward_mem_sideNeighbours
  · rw [next, Edge.leftCell_onward_left]
    exact Relation.ReflTransGen.refl

/-- All cells on the left of a chain belong to one class of unfilled cells. -/
theorem joined_leftCell (traced : Traced mask chains) (listed : chain ∈ chains) {first : Edge}
    (memberFirst : first ∈ chain) (member : edge ∈ chain) :
    Joined Regions.neighbours mask.surroundings (Mask.outward first.leftCell)
      (Mask.outward edge.leftCell) :=
  traced.joined_of_follow listed (fun edge => Mask.outward edge.leftCell)
    (fun _ => joined_leftCell_follow) memberFirst member

/-! ## The winding number of a class -/

theorem winding_eq_of_sideNeighbours (traced : Traced mask chains) (listed : chain ∈ chains)
    (adjacent : b ∈ Regions.sideNeighbours a) (same : mask.fills a = mask.fills b) :
    Chain.winding chain b = Chain.winding chain a := by
  rcases Edge.exists_between_sideNeighbours adjacent with ⟨edge, right, left⟩
  rw [← right, ← left] at same ⊢
  exact (traced.winding_eq_of_fills_eq listed same).symm

theorem follow_mem_iff (traced : Traced mask chains) (listed : chain ∈ chains)
    (onBoundary : edge ∈ mask.boundary) : mask.follow edge ∈ chain ↔ edge ∈ chain := by
  constructor
  · intro member
    rcases Loop.exists_previous (traced.orbit chain listed) member with
      ⟨previous, previousMember, same⟩
    rw [← Mask.follow_injective (traced.mem_boundary listed previousMember) onBoundary same]
    exact previousMember
  · exact traced.follow_mem listed

/-- A boundary edge changes the winding number of its own chain only. -/
theorem winding_across (traced : Traced mask chains) (listed : chain ∈ chains)
    (onBoundary : edge ∈ mask.boundary) :
    Chain.winding chain edge.rightCell - Chain.winding chain edge.leftCell =
      if edge ∈ chain then 1 else 0 := by
  have unusedBack : edge.reverse ∉ chain := by
    intro member
    exact Mask.reverse_not_mem_boundary onBoundary (traced.mem_boundary listed member)
  rw [(traced.closed listed).winding_rightCell_sub, List.count_eq_zero_of_not_mem unusedBack]
  split
  · rw [traced.count_eq_one listed ‹_›]
    rfl
  · rw [List.count_eq_zero_of_not_mem ‹_›]
    rfl

/-- Diagonally a chain does not pass between unfilled cells, whatever lies
between them. -/
theorem winding_eq_of_cornerNeighbours (traced : Traced mask chains) (listed : chain ∈ chains)
    (adjacent : b ∈ Regions.cornerNeighbours a) (freeA : mask.fills a = false)
    (freeB : mask.fills b = false) : Chain.winding chain b = Chain.winding chain a := by
  rcases Edge.exists_between_cornerNeighbours adjacent with ⟨edge, left, ahead⟩
  rw [← left] at freeA ⊢
  rw [← ahead, ← Edge.leftCell_onward_right] at freeB ⊢
  cases right : mask.fills edge.rightCell with
  | false =>
      have turnRight := (congrArg mask.fills edge.rightCell_onward_right).trans right
      have besideA := traced.winding_eq_of_fills_eq listed (right.trans freeA.symm)
      have besideB := traced.winding_eq_of_fills_eq listed (turnRight.trans freeB.symm)
      rw [Edge.rightCell_onward_right] at besideB
      exact besideB.symm.trans besideA
  | true =>
      -- The chain turns right around the filled cell between the two or is not there.
      have onBoundary : edge ∈ mask.boundary := Mask.mem_boundary.mpr ⟨right, freeA⟩
      have next : mask.follow edge = edge.onward edge.direction.right := by
        rw [Edge.leftCell_onward_right] at freeB
        exact if_pos freeB
      have across := traced.winding_across listed onBoundary
      have turn := traced.winding_across listed (Mask.follow_mem_boundary onBoundary)
      rw [next, Edge.rightCell_onward_right, ← next] at turn
      simp only [traced.follow_mem_iff listed onBoundary] at turn
      rw [next] at turn
      omega

/-- A chain winds around all cells of a region alike. -/
theorem winding_eq_of_joined_sideNeighbours (traced : Traced mask chains) (listed : chain ∈ chains)
    (isFilled : mask.fills a = true) (joined : Joined Regions.sideNeighbours mask a b) :
    Chain.winding chain b = Chain.winding chain a := by
  induction joined with
  | refl => rfl
  | tail before step same =>
      have filledBefore := Joined.fills before isFilled
      exact (traced.winding_eq_of_sideNeighbours listed step.1 (filledBefore.trans step.2.symm)).trans
        same

/-- A chain winds around all cells of a class of unfilled cells alike. -/
theorem winding_eq_of_joined_neighbours (traced : Traced mask chains) (listed : chain ∈ chains)
    (free : mask.surroundings.fills a = true)
    (joined : Joined Regions.neighbours mask.surroundings a b) :
    Chain.winding chain (Mask.inward b) = Chain.winding chain (Mask.inward a) := by
  induction joined with
  | refl => rfl
  | @tail middle last before step same =>
      have freeBefore := (Mask.fills_surroundings.mp (Joined.fills before free)).2.2
      have freeHere := (Mask.fills_surroundings.mp step.2).2.2
      rw [← same]
      rcases List.mem_append.mp (Mask.mem_neighbours_inward step.1) with side | corner
      · exact traced.winding_eq_of_sideNeighbours listed side (freeBefore.trans freeHere.symm)
      · exact traced.winding_eq_of_cornerNeighbours listed corner freeBefore freeHere

end Traced
end BattleMap
