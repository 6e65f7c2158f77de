import Mathlib.Data.Set.Card
import BattleMap.Proofs.Correspondence

namespace BattleMap

open Regions (Cell Joined)

/-!
# Counting loops

There are as many outer boundaries as regions and as many hole loops as holes.
That no two loops go around the same region is seen at the top.  Of two loops
take the one that reaches higher, or as high: above its topmost edge the other
loop winds around nothing, and below that edge it winds around the common
region, so the edge belongs to it as well.
-/

namespace Traced

variable {mask : Mask} {chains : List Chain} {chain other : Chain} {edge edgeOther : Edge}
  {a : Cell}

/-- On top a chain runs level: to the right if it winds around the cells on its
right, and to the left if it does not. -/
theorem exists_top (traced : Traced mask chains) (listed : chain ∈ chains) :
    Exists fun top => top ∈ chain ∧
      (forall x y, y < top.start.y -> Chain.winding chain (x, y) = 0) ∧
      (forall edge, edge ∈ chain -> top.start.y ≤ edge.start.y) ∧
      ((top.direction = .east ∧ Chain.winding chain top.rightCell = 1) ∨
        (top.direction = .west ∧ Chain.winding chain top.rightCell = 0)) := by
  rcases traced.exists_first listed with ⟨first, member, least, _⟩
  have above : forall x y, y < first.start.y -> Chain.winding chain (x, y) = 0 :=
    fun x _ high => traced.winding_eq_zero_of_above listed least x high
  have highest : forall edge, edge ∈ chain -> first.start.y ≤ edge.start.y := by
    intro edge edgeMember
    have order := Chain.readsBefore_eq_false_iff.mp (least edge edgeMember)
    omega
  rcases traced.direction_of_first listed member least with
    ⟨heading, outer⟩ | ⟨_, inner, previous, previousMember, heading, arrives⟩
  · exact ⟨first, member, above, highest, Or.inl ⟨heading, outer⟩⟩
  · have level : previous.start.y = first.start.y := by
      rw [← arrives]
      rcases previous with ⟨⟨x, y⟩, direction⟩
      cases heading
      rfl
    rw [← level] at above highest
    refine ⟨previous, previousMember, above, highest, Or.inr ⟨heading, ?_⟩⟩
    rw [traced.winding_rightCell_eq listed member previousMember]
    exact inner

/-- If another chain changes its winding number across an edge, it is not another one. -/
theorem eq_of_winding_ne (traced : Traced mask chains) (listed : chain ∈ chains)
    (listedOther : other ∈ chains) (member : edge ∈ chain)
    (differ : Chain.winding other edge.rightCell ≠ Chain.winding other edge.leftCell) :
    chain = other := by
  have across := traced.winding_across listedOther (traced.mem_boundary listed member)
  by_cases shared : edge ∈ other
  · exact traced.eq_of_mem listed listedOther member shared
  · rw [if_neg shared] at across
    omega

/-- If another chain winds around a cell at a topmost edge, but around nothing
above that edge, then it is not another one. -/
private theorem eq_of_level (traced : Traced mask chains) (listed : chain ∈ chains)
    (listedOther : other ∈ chains) (member : edge ∈ chain)
    (level : edge.direction = .east ∨ edge.direction = .west)
    (above : forall x y, y < edgeOther.start.y -> Chain.winding other (x, y) = 0)
    (higher : edge.start.y ≤ edgeOther.start.y)
    (inside : Chain.winding other edge.rightCell ≠ 0 ∨ Chain.winding other edge.leftCell ≠ 0) :
    chain = other := by
  apply traced.eq_of_winding_ne listed listedOther member
  rcases edge with ⟨⟨x, y⟩, direction⟩
  rcases level with heading | heading
  · cases heading
    have outside : Chain.winding other (Edge.mk ⟨x, y⟩ .east).leftCell = 0 :=
      above x (y - 1) (by dsimp only at higher; omega)
    omega
  · cases heading
    have outside : Chain.winding other (Edge.mk ⟨x, y⟩ .west).rightCell = 0 :=
      above (x - 1) (y - 1) (by dsimp only at higher; omega)
    omega

/-- Two chains are the same if each winds around a cell at the topmost edge of
the other. -/
theorem eq_of_tops (traced : Traced mask chains) (listed : chain ∈ chains)
    (listedOther : other ∈ chains) (member : edge ∈ chain) (memberOther : edgeOther ∈ other)
    (level : edge.direction = .east ∨ edge.direction = .west)
    (levelOther : edgeOther.direction = .east ∨ edgeOther.direction = .west)
    (above : forall x y, y < edge.start.y -> Chain.winding chain (x, y) = 0)
    (aboveOther : forall x y, y < edgeOther.start.y -> Chain.winding other (x, y) = 0)
    (inside : Chain.winding other edge.rightCell ≠ 0 ∨ Chain.winding other edge.leftCell ≠ 0)
    (insideOther : Chain.winding chain edgeOther.rightCell ≠ 0 ∨
      Chain.winding chain edgeOther.leftCell ≠ 0) : chain = other := by
  rcases Int.le_total edge.start.y edgeOther.start.y with higher | lower
  · exact traced.eq_of_level listed listedOther member level aboveOther higher inside
  · exact (traced.eq_of_level listedOther listed memberOther levelOther above lower insideOther).symm

/-- A region has at most one outer boundary. -/
theorem eq_of_joined_rightCell (traced : Traced mask chains) (listed : chain ∈ chains)
    (listedOther : other ∈ chains) (member : edge ∈ chain) (memberOther : edgeOther ∈ other)
    (outer : Chain.winding chain edge.rightCell = 1)
    (outerOther : Chain.winding other edgeOther.rightCell = 1)
    (joined : Joined Regions.sideNeighbours mask edge.rightCell edgeOther.rightCell) :
    chain = other := by
  rcases traced.exists_top listed with ⟨top, topMember, above, _, turn⟩
  rcases traced.exists_top listedOther with ⟨topOther, topMemberOther, aboveOther, _, turnOther⟩
  have topLevel := traced.winding_rightCell_eq listed member topMember
  have topLevelOther := traced.winding_rightCell_eq listedOther memberOther topMemberOther
  have filled := (Mask.mem_boundary.mp (traced.mem_boundary listed topMember)).1
  have path : Joined Regions.sideNeighbours mask top.rightCell topOther.rightCell :=
    Relation.ReflTransGen.trans (traced.joined_rightCell listed topMember member)
      (Relation.ReflTransGen.trans joined
        (traced.joined_rightCell listedOther memberOther topMemberOther))
  have same := traced.winding_eq_of_joined_sideNeighbours listed filled path
  have sameOther := traced.winding_eq_of_joined_sideNeighbours listedOther filled path
  apply traced.eq_of_tops listed listedOther topMember topMemberOther _ _ above aboveOther
  · exact Or.inl (by omega)
  · exact Or.inl (by omega)
  · exact turn.imp And.left And.left
  · exact turnOther.imp And.left And.left

/-- A hole has at most one loop. -/
theorem eq_of_joined_leftCell (traced : Traced mask chains) (listed : chain ∈ chains)
    (listedOther : other ∈ chains) (member : edge ∈ chain) (memberOther : edgeOther ∈ other)
    (inner : Chain.winding chain edge.rightCell = 0)
    (innerOther : Chain.winding other edgeOther.rightCell = 0)
    (joined : Joined Regions.neighbours mask.surroundings (Mask.outward edge.leftCell)
      (Mask.outward edgeOther.leftCell)) : chain = other := by
  rcases traced.exists_top listed with ⟨top, topMember, above, _, turn⟩
  rcases traced.exists_top listedOther with ⟨topOther, topMemberOther, aboveOther, _, turnOther⟩
  have topLevel := traced.winding_rightCell_eq listed member topMember
  have topLevelOther := traced.winding_rightCell_eq listedOther memberOther topMemberOther
  have left := traced.winding_leftCell listed topMember
  have leftOther := traced.winding_leftCell listedOther topMemberOther
  have free := fills_surroundings_leftCell (traced.mem_boundary listed topMember)
  have path : Joined Regions.neighbours mask.surroundings (Mask.outward top.leftCell)
      (Mask.outward topOther.leftCell) :=
    Relation.ReflTransGen.trans (traced.joined_leftCell listed topMember member)
      (Relation.ReflTransGen.trans joined
        (traced.joined_leftCell listedOther memberOther topMemberOther))
  have same := traced.winding_eq_of_joined_neighbours listed free path
  have sameOther := traced.winding_eq_of_joined_neighbours listedOther free path
  rw [Mask.inward_outward, Mask.inward_outward] at same sameOther
  apply traced.eq_of_tops listed listedOther topMember topMemberOther _ _ above aboveOther
  · exact Or.inr (by omega)
  · exact Or.inr (by omega)
  · exact turn.imp And.left And.left
  · exact turnOther.imp And.left And.left

/-! ## A loop for each class -/

/-- The boundary along the top of the topmost cells of a region is an outer one. -/
theorem exists_outer (traced : Traced mask chains) (isFilled : mask.fills a = true) :
    Exists fun chain => chain ∈ chains ∧ Exists fun edge => edge ∈ chain ∧
      Chain.winding chain edge.rightCell = 1 ∧
      Joined Regions.sideNeighbours mask a edge.rightCell := by
  rcases Regions.exists_topmost Regions.sideNeighbours isFilled with
    ⟨top, joined, highest⟩
  have free : mask.fills (top.1, top.2 - 1) = false := by
    apply Bool.eq_false_iff.mpr
    intro higherFilled
    have higher := highest (top.1, top.2 - 1)
      (Relation.ReflTransGen.tail joined ⟨by simp [Regions.sideNeighbours], higherFilled⟩)
    dsimp only at higher
    omega
  have onBoundary : (⟨⟨top.1, top.2⟩, .east⟩ : Edge) ∈ mask.boundary :=
    Mask.mem_boundary.mpr ⟨Joined.fills joined isFilled, free⟩
  rcases traced.exists_chain onBoundary with ⟨chain, listed, member⟩
  rcases traced.exists_top listed with ⟨highestEdge, edgeMember, _, low, turn⟩
  refine ⟨chain, listed, _, member, ?_, joined⟩
  rw [traced.winding_rightCell_eq listed edgeMember member]
  rcases turn with ⟨_, outer⟩ | ⟨heading, _⟩
  · exact outer
  · -- The right cell of the topmost edge would lie higher in the region.
    have higher := highest _
      (Relation.ReflTransGen.trans joined (traced.joined_rightCell listed member edgeMember))
    have lower := low _ member
    rcases highestEdge with ⟨⟨x, y⟩, direction⟩
    cases heading
    simp only [Edge.rightCell] at higher lower
    omega

/-- The boundary along the bottom of the cells above a hole is that of the hole. -/
theorem exists_inner (traced : Traced mask chains) (free : mask.surroundings.fills a = true)
    (enclosed : ¬ Joined Regions.neighbours mask.surroundings (0, 0) a) :
    Exists fun chain => chain ∈ chains ∧ Exists fun edge => edge ∈ chain ∧
      Chain.winding chain edge.rightCell = 0 ∧
      Joined Regions.neighbours mask.surroundings a (Mask.outward edge.leftCell) := by
  rcases Regions.exists_topmost Regions.neighbours free with ⟨top, joined, highest⟩
  have topFree := Joined.fills joined free
  rcases Mask.fills_surroundings.mp topFree with ⟨column, row, unfilled⟩
  have notOnRing : ¬ mask.OnRing top := by
    intro ring
    apply enclosed
    exact Relation.ReflTransGen.trans (Mask.joined_of_onRing ring topFree)
      (joined.symm (fun _ _ => Regions.neighbours_symm) free)
  unfold Mask.OnRing at notOnRing
  have filledAbove : mask.fills (top.1 - 1, top.2 - 1 - 1) = true := by
    by_contra freeAbove
    have aboveFree : mask.surroundings.fills (top.1, top.2 - 1) = true :=
      Mask.fills_surroundings.mpr ⟨column, ⟨by dsimp only; omega, by dsimp only; omega⟩,
        Bool.eq_false_iff.mpr freeAbove⟩
    have higher := highest (top.1, top.2 - 1) (Relation.ReflTransGen.tail joined
      ⟨by simp [Regions.neighbours, Regions.sideNeighbours], aboveFree⟩)
    dsimp only at higher
    omega
  have onBoundary : (⟨⟨top.1, top.2 - 1⟩, .west⟩ : Edge) ∈ mask.boundary :=
    Mask.mem_boundary.mpr ⟨filledAbove, unfilled⟩
  have place : Mask.outward (Edge.mk ⟨top.1, top.2 - 1⟩ .west).leftCell = top :=
    Mask.outward_inward top
  rcases traced.exists_chain onBoundary with ⟨chain, listed, member⟩
  rcases traced.exists_top listed with ⟨highestEdge, edgeMember, _, low, turn⟩
  refine ⟨chain, listed, _, member, ?_, ?_⟩
  · rw [traced.winding_rightCell_eq listed edgeMember member]
    rcases turn with ⟨heading, _⟩ | ⟨_, inner⟩
    · -- The left cell of the topmost edge would lie higher in the hole.
      have path := traced.joined_leftCell listed member edgeMember
      rw [place] at path
      have higher := highest _ (Relation.ReflTransGen.trans joined path)
      have lower := low _ member
      rcases highestEdge with ⟨⟨x, y⟩, direction⟩
      cases heading
      simp only [Edge.leftCell, Mask.outward] at higher lower
      omega
    · exact inner
  · rw [place]
    exact joined

/-- No loop of a hole lies in the class of the ring. -/
theorem not_joined_origin (traced : Traced mask chains) (listed : chain ∈ chains)
    (member : edge ∈ chain) (inner : Chain.winding chain edge.rightCell = 0) :
    ¬ Joined Regions.neighbours mask.surroundings (0, 0) (Mask.outward edge.leftCell) := by
  intro joined
  have same := traced.winding_eq_of_joined_neighbours listed mask.fills_surroundings_origin joined
  have left := traced.winding_leftCell listed member
  rcases traced.exists_top listed with ⟨top, topMember, above, _⟩
  have bounds := traced.bounds_of_mem listed topMember
  have outside : Chain.winding chain (Mask.inward (0, 0)) = 0 := above _ _ (by omega)
  rw [Mask.inward_outward, outside] at same
  omega

/-! ## Counting -/

private theorem length_filter_eq_ncard {property : Chain -> Bool} (image : Chain -> Set Cell)
    {cells : Set (Set Cell)} (distinct : chains.Nodup)
    (injective : forall chain, chain ∈ chains -> forall other, other ∈ chains ->
      property chain = true -> property other = true -> image chain = image other -> chain = other)
    (onto : forall cell, cell ∈ cells ↔
      Exists fun chain => chain ∈ chains ∧ property chain = true ∧ image chain = cell) :
    (chains.filter property).length = cells.ncard := by
  classical
  have distinctImages : ((chains.filter property).map image).Nodup := by
    apply List.Nodup.map_on _ (distinct.filter _)
    intro chain member other memberOther same
    have parts := List.mem_filter.mp member
    have partsOther := List.mem_filter.mp memberOther
    exact injective chain parts.1 other partsOther.1 parts.2 partsOther.2 same
  have listed : cells = (((chains.filter property).map image).toFinset : Set (Set Cell)) := by
    ext cell
    rw [onto, Finset.mem_coe, List.mem_toFinset, List.mem_map]
    simp only [List.mem_filter, and_assoc]
  rw [listed, Set.ncard_coe_finset, List.toFinset_card_of_nodup distinctImages, List.length_map]

/-- The region on the right of a chain. -/
def region (mask : Mask) (chain : Chain) : Set Cell :=
  {cell | Exists fun edge => edge ∈ chain ∧ Joined Regions.sideNeighbours mask edge.rightCell cell}

/-- The class of unfilled cells on the left of a chain. -/
def hollow (mask : Mask) (chain : Chain) : Set Cell :=
  {cell | Exists fun edge => edge ∈ chain ∧
    Joined Regions.neighbours mask.surroundings (Mask.outward edge.leftCell) cell}

theorem region_eq (traced : Traced mask chains) (listed : chain ∈ chains) (member : edge ∈ chain) :
    region mask chain = Regions.classOf Regions.sideNeighbours mask edge.rightCell := by
  ext cell
  constructor
  · rintro ⟨start, startMember, joined⟩
    exact Relation.ReflTransGen.trans (traced.joined_rightCell listed member startMember) joined
  · intro joined
    exact ⟨edge, member, joined⟩

theorem hollow_eq (traced : Traced mask chains) (listed : chain ∈ chains) (member : edge ∈ chain) :
    hollow mask chain =
      Regions.classOf Regions.neighbours mask.surroundings (Mask.outward edge.leftCell) := by
  ext cell
  constructor
  · rintro ⟨start, startMember, joined⟩
    exact Relation.ReflTransGen.trans (traced.joined_leftCell listed member startMember) joined
  · intro joined
    exact ⟨edge, member, joined⟩

theorem level_of_not_neg (traced : Traced mask chains) (listed : chain ∈ chains)
    (member : edge ∈ chain) (outer : ¬ chain.toLoop.shoelace < 0) :
    Chain.winding chain edge.rightCell = 1 := by
  rw [traced.shoelace_neg_iff listed member] at outer
  rcases traced.isOuter_or_isInner listed with ⟨_, level⟩ | ⟨_, level⟩
  · exact level edge member
  · exact absurd (level edge member) outer

/-- There are as many outer boundaries as regions. -/
theorem length_outer (traced : Traced mask chains) :
    (chains.filter fun chain => ¬ chain.toLoop.shoelace < 0).length = mask.regions.ncard := by
  apply length_filter_eq_ncard (region mask) traced.nodup_chains
  · intro chain listed other listedOther outer outerOther same
    rcases List.exists_mem_of_ne_nil chain (traced.nonempty chain listed) with ⟨edge, member⟩
    rcases List.exists_mem_of_ne_nil other (traced.nonempty other listedOther) with
      ⟨edgeOther, memberOther⟩
    rw [traced.region_eq listed member, traced.region_eq listedOther memberOther] at same
    have joined : edgeOther.rightCell ∈
        Regions.classOf Regions.sideNeighbours mask edge.rightCell :=
      same ▸ Regions.mem_classOf_self _ _ _
    exact traced.eq_of_joined_rightCell listed listedOther member memberOther
      (traced.level_of_not_neg listed member (of_decide_eq_true outer))
      (traced.level_of_not_neg listedOther memberOther (of_decide_eq_true outerOther)) joined
  · intro cells
    constructor
    · rintro ⟨cell, isFilled, rfl⟩
      rcases traced.exists_outer isFilled with ⟨chain, listed, edge, member, outer, joined⟩
      refine ⟨chain, listed, ?_, ?_⟩
      · apply decide_eq_true
        rw [traced.shoelace_neg_iff listed member, outer]
        decide
      · rw [traced.region_eq listed member]
        exact Regions.classOf_eq (fun _ _ => Regions.sideNeighbours_symm) isFilled joined
    · rintro ⟨chain, listed, _, rfl⟩
      rcases List.exists_mem_of_ne_nil chain (traced.nonempty chain listed) with ⟨edge, member⟩
      rw [traced.region_eq listed member]
      exact ⟨edge.rightCell, (Mask.mem_boundary.mp (traced.mem_boundary listed member)).1, rfl⟩

/-- There are as many hole loops as holes. -/
theorem length_inner (traced : Traced mask chains) :
    (chains.filter fun chain => chain.toLoop.shoelace < 0).length = mask.holes.ncard := by
  rw [Mask.holes_eq]
  apply length_filter_eq_ncard (hollow mask) traced.nodup_chains
  · intro chain listed other listedOther inner innerOther same
    rcases List.exists_mem_of_ne_nil chain (traced.nonempty chain listed) with ⟨edge, member⟩
    rcases List.exists_mem_of_ne_nil other (traced.nonempty other listedOther) with
      ⟨edgeOther, memberOther⟩
    rw [traced.hollow_eq listed member, traced.hollow_eq listedOther memberOther] at same
    have joined : Mask.outward edgeOther.leftCell ∈
        Regions.classOf Regions.neighbours mask.surroundings (Mask.outward edge.leftCell) :=
      same ▸ Regions.mem_classOf_self _ _ _
    exact traced.eq_of_joined_leftCell listed listedOther member memberOther
      ((traced.shoelace_neg_iff listed member).mp (of_decide_eq_true inner))
      ((traced.shoelace_neg_iff listedOther memberOther).mp (of_decide_eq_true innerOther)) joined
  · intro cells
    constructor
    · rintro ⟨⟨cell, free, rfl⟩, different⟩
      have enclosed : ¬ Joined Regions.neighbours mask.surroundings (0, 0) cell := by
        intro joined
        exact different (Regions.classOf_eq (fun _ _ => Regions.neighbours_symm)
          mask.fills_surroundings_origin joined)
      rcases traced.exists_inner free enclosed with ⟨chain, listed, edge, member, inner, joined⟩
      refine ⟨chain, listed, ?_, ?_⟩
      · exact decide_eq_true ((traced.shoelace_neg_iff listed member).mpr inner)
      · rw [traced.hollow_eq listed member]
        exact Regions.classOf_eq (fun _ _ => Regions.neighbours_symm) free joined
    · rintro ⟨chain, listed, inner, rfl⟩
      rcases List.exists_mem_of_ne_nil chain (traced.nonempty chain listed) with ⟨edge, member⟩
      rw [traced.hollow_eq listed member]
      refine ⟨⟨_, fills_surroundings_leftCell (traced.mem_boundary listed member), rfl⟩, ?_⟩
      intro same
      have joined : Mask.outward edge.leftCell ∈
          Regions.classOf Regions.neighbours mask.surroundings (0, 0) :=
        same ▸ Regions.mem_classOf_self _ _ _
      exact traced.not_joined_origin listed member
        ((traced.shoelace_neg_iff listed member).mp (of_decide_eq_true inner)) joined

end Traced

/-- The loops of an outline that are not holes are as many as the regions of the
mask, and those that are holes as many as its holes.  The count of regions is the
number of classes of filled cells that share sides, and that of holes the number
of classes of unfilled cells that touch and do not reach the ring around the
grid. -/
theorem Mask.length_outline (mask : Mask) :
    Exists fun loops : List (Loop Int) => mask.outline = .ok loops ∧
      (loops.filter fun loop => ¬ loop.shoelace < 0).length = mask.regionCount ∧
      (loops.filter fun loop => loop.shoelace < 0).length = mask.holeCount ∧
      mask.regionCount = mask.regions.ncard ∧ mask.holeCount = mask.holes.ncard ∧
      forall loop, loop ∈ loops ->
        (loop.HasExactSums -> loop.toNumbers.isHole = .ok (decide (loop.shoelace < 0))) ∧
        (4 * (mask.width * mask.height) * (mask.width + mask.height) ≤ Number.exactLimit ->
          loop.HasExactSums) := by
  rcases mask.exists_traced with ⟨chains, outlined, traced⟩
  refine ⟨chains.map Chain.toLoop, outlined, ?_, ?_, mask.regionCount_eq_ncard,
    mask.holeCount_eq_ncard, ?_⟩
  · rw [List.filter_map, List.length_map, mask.regionCount_eq_ncard]
    exact traced.length_outer
  · rw [List.filter_map, List.length_map, mask.holeCount_eq_ncard]
    exact traced.length_inner
  · intro loop member
    rcases List.mem_map.mp member with ⟨chain, listed, rfl⟩
    exact ⟨Loop.isHole_toNumbers, traced.hasExactSums listed⟩

end BattleMap
