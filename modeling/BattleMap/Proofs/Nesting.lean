import BattleMap.Proofs.Counting

namespace BattleMap

open Regions (Cell Joined)

/-!
# Loops inside each other

Different chains share no edge, so a chain lies on one side of any other one: the
cells beside it are all wound around by the other chain, or none of them is.  In
the first case the other chain surrounds it.  Two chains never surround each
other, which is seen at their tops, and a chain that surrounds another one winds
around everything that the other one winds around, which is seen along rows, and
around a cell beside itself that the other one does not reach.  So its area is
larger.

Therefore the loop that decides over a cell is the smallest one around it.  For a
filled cell this is the outer boundary of its region and for an enclosed cell the
loop of its hole; all other loops around the cell surround that one.
-/

namespace Traced

variable {mask : Mask} {chains : List Chain} {chain other : Chain} {edge : Edge} {cell : Cell}

/-- The winding number of another chain is the same on both sides of an edge. -/
theorem winding_leftCell_of_ne (traced : Traced mask chains) (listed : chain ∈ chains)
    (listedOther : other ∈ chains) (different : chain ≠ other) (member : edge ∈ chain) :
    Chain.winding other edge.leftCell = Chain.winding other edge.rightCell := by
  by_contra differ
  exact different (traced.eq_of_winding_ne listed listedOther member (Ne.symm differ))

/-- Another chain winds around all cells on the right of a chain alike. -/
theorem winding_rightCell_of_ne (traced : Traced mask chains) (listed : chain ∈ chains)
    (listedOther : other ∈ chains) {first : Edge} (memberFirst : first ∈ chain)
    (member : edge ∈ chain) :
    Chain.winding other edge.rightCell = Chain.winding other first.rightCell := by
  have filled := (Mask.mem_boundary.mp (traced.mem_boundary listed memberFirst)).1
  exact traced.winding_eq_of_joined_sideNeighbours listedOther filled
    (traced.joined_rightCell listed memberFirst member)

/-- A chain surrounds another one if it winds around the cells beside it. -/
def Surrounds (other chain : Chain) : Prop :=
  forall edge, edge ∈ chain -> Chain.winding other edge.rightCell ≠ 0

theorem surrounds_of_mem (traced : Traced mask chains) (listed : chain ∈ chains)
    (listedOther : other ∈ chains) (member : edge ∈ chain)
    (inside : Chain.winding other edge.rightCell ≠ 0) : Surrounds other chain := by
  intro later laterMember
  rw [traced.winding_rightCell_of_ne listed listedOther member laterMember]
  exact inside

/-- Different chains do not surround each other. -/
theorem winding_eq_zero_of_surrounds (traced : Traced mask chains) (listed : chain ∈ chains)
    (listedOther : other ∈ chains) (different : chain ≠ other) (surrounds : Surrounds other chain)
    (member : edge ∈ other) : Chain.winding chain edge.rightCell = 0 := by
  by_contra inside
  have back := traced.surrounds_of_mem listedOther listed member inside
  rcases traced.exists_top listed with ⟨top, topMember, above, _, turn⟩
  rcases traced.exists_top listedOther with ⟨topOther, topMemberOther, aboveOther, _, turnOther⟩
  exact different (traced.eq_of_tops listed listedOther topMember topMemberOther
    (turn.imp And.left And.left) (turnOther.imp And.left And.left) above aboveOther
    (Or.inl (surrounds top topMember)) (Or.inl (back topOther topMemberOther)))

/-- An edge that is used by a chain in either direction has on its right a cell
that any other chain winds around as around the cells on the right of the chain. -/
theorem exists_winding_eq_of_used (traced : Traced mask chains) (listed : chain ∈ chains)
    (listedOther : other ∈ chains) (different : chain ≠ other)
    (used : edge ∈ chain ∨ edge.reverse ∈ chain) :
    Exists fun along => along ∈ chain ∧
      Chain.winding other edge.rightCell = Chain.winding other along.rightCell := by
  rcases used with member | back
  · exact ⟨edge, member, rfl⟩
  · have across := traced.winding_leftCell_of_ne listed listedOther different back
    rw [Edge.leftCell_reverse] at across
    exact ⟨edge.reverse, back, across⟩

/-- A chain that surrounds another one winds around every cell that the other one
winds around. -/
theorem winding_ne_zero_of_surrounds (traced : Traced mask chains) (listed : chain ∈ chains)
    (listedOther : other ∈ chains) (different : chain ≠ other) (surrounds : Surrounds other chain) :
    forall cell, Chain.winding chain cell ≠ 0 -> Chain.winding other cell ≠ 0 := by
  refine mask.forall_cells ?_ ?_
  · intro x y beyond inside
    exact absurd (traced.winding_eq_zero_of_beyond listed beyond y) inside
  · intro edge _ nearer inside
    by_cases used : edge ∈ chain ∨ edge.reverse ∈ chain
    · rcases traced.exists_winding_eq_of_used listed listedOther different used with
        ⟨along, member, same⟩
      rw [same]
      exact surrounds along member
    · by_cases usedOther : edge ∈ other ∨ edge.reverse ∈ other
      · rcases traced.exists_winding_eq_of_used listedOther listed (Ne.symm different) usedOther with
          ⟨along, member, same⟩
        rw [same] at inside
        exact absurd (traced.winding_eq_zero_of_surrounds listed listedOther different surrounds member)
          inside
      · rw [not_or] at used usedOther
        rw [traced.winding_rightCell_eq_leftCell listedOther usedOther.1 usedOther.2]
        rw [traced.winding_rightCell_eq_leftCell listed used.1 used.2] at inside
        exact nearer inside

/-- The cells on the left of a hole loop lie on the grid. -/
theorem bounds_leftCell (traced : Traced mask chains) (listed : chain ∈ chains)
    (member : edge ∈ chain) (inner : Chain.winding chain edge.rightCell = 0) :
    0 ≤ edge.leftCell.1 ∧ edge.leftCell.1 < mask.width ∧ 0 ≤ edge.leftCell.2 ∧
      edge.leftCell.2 < mask.height := by
  have free := fills_surroundings_leftCell (traced.mem_boundary listed member)
  have notOnRing : ¬ mask.OnRing (Mask.outward edge.leftCell) :=
    fun ring => traced.not_joined_origin listed member inner (Mask.joined_of_onRing ring free)
  rcases Mask.fills_surroundings.mp free with ⟨column, row, _⟩
  simp only [Mask.OnRing, Mask.outward] at notOnRing column row
  omega

/-- A chain winds around a cell of the grid that lies beside one of its edges. -/
theorem exists_cell_beside (traced : Traced mask chains) (listed : chain ∈ chains)
    (member : edge ∈ chain) :
    Exists fun x : Nat => Exists fun y : Nat => (x < mask.width ∧ y < mask.height) ∧
      (((x : Int), (y : Int)) = edge.rightCell ∨ ((x : Int), (y : Int)) = edge.leftCell) ∧
      Chain.winding chain ((x : Int), (y : Int)) ≠ 0 := by
  have place : forall cell : Cell, 0 ≤ cell.1 ∧ cell.1 < mask.width ∧ 0 ≤ cell.2 ∧
      cell.2 < mask.height -> (cell.1.toNat < mask.width ∧ cell.2.toNat < mask.height) ∧
        ((cell.1.toNat : Int), (cell.2.toNat : Int)) = cell := by
    rintro ⟨x, y⟩ bounds
    dsimp only at bounds
    exact ⟨by omega, Prod.ext (Int.toNat_of_nonneg bounds.1) (Int.toNat_of_nonneg bounds.2.2.1)⟩
  rcases traced.isOuter_or_isInner listed with ⟨_, level⟩ | ⟨_, level⟩
  · have filled := (Mask.mem_boundary.mp (traced.mem_boundary listed member)).1
    rcases place _ (Mask.bounds_of_fills filled) with ⟨onGrid, same⟩
    refine ⟨_, _, onGrid, Or.inl same, ?_⟩
    rw [same, level edge member]
    decide
  · rcases place _ (traced.bounds_leftCell listed member (level edge member)) with ⟨onGrid, same⟩
    refine ⟨_, _, onGrid, Or.inr same, ?_⟩
    rw [same, traced.winding_leftCell listed member, level edge member]
    decide

/-- A chain that surrounds another one winds around a cell of the grid that the
other one does not wind around. -/
theorem exists_cell_of_surrounds (traced : Traced mask chains) (listed : chain ∈ chains)
    (listedOther : other ∈ chains) (different : chain ≠ other) (surrounds : Surrounds other chain) :
    Exists fun x : Nat => Exists fun y : Nat => (x < mask.width ∧ y < mask.height) ∧
      Chain.winding other ((x : Int), (y : Int)) ≠ 0 ∧
      Chain.winding chain ((x : Int), (y : Int)) = 0 := by
  rcases List.exists_mem_of_ne_nil other (traced.nonempty other listedOther) with ⟨edge, member⟩
  have outside := traced.winding_eq_zero_of_surrounds listed listedOther different surrounds member
  have across := traced.winding_leftCell_of_ne listedOther listed (Ne.symm different) member
  rcases traced.exists_cell_beside listedOther member with ⟨x, y, onGrid, beside, inside⟩
  refine ⟨x, y, onGrid, inside, ?_⟩
  rcases beside with right | left
  · rw [right]
    exact outside
  · rw [left, across]
    exact outside

/-! ## Areas -/

/-- All winding numbers of a chain other than zero are the same unit. -/
theorem exists_turn (traced : Traced mask chains) (listed : chain ∈ chains) :
    Exists fun turn : Int => (turn = 1 ∨ turn = -1) ∧
      forall cell, Chain.winding chain cell = 0 ∨ Chain.winding chain cell = turn := by
  rcases List.exists_mem_of_ne_nil chain (traced.nonempty chain listed) with ⟨edge, member⟩
  have left := traced.winding_leftCell listed member
  have three := traced.winding_cases listed member
  rcases traced.isOuter_or_isInner listed with ⟨_, level⟩ | ⟨_, level⟩
  · refine ⟨1, Or.inl rfl, fun cell => ?_⟩
    have value := three cell
    rw [left, level edge member] at value
    omega
  · refine ⟨-1, Or.inr rfl, fun cell => ?_⟩
    have value := three cell
    rw [left, level edge member] at value
    omega

/-- Twice the number of cells that a chain winds around is its area. -/
theorem natAbs_shoelace (traced : Traced mask chains) (listed : chain ∈ chains) :
    chain.toLoop.shoelace.natAbs = 2 * ∑ y ∈ Finset.range mask.height,
      ∑ x ∈ Finset.range mask.width, (Chain.winding chain ((x : Int), (y : Int))).natAbs := by
  rcases traced.exists_turn listed with ⟨turn, unit, values⟩
  have oriented : forall cell, Chain.winding chain cell =
      turn * ((Chain.winding chain cell).natAbs : Int) := by
    intro cell
    rcases values cell with same | same <;> rw [same] <;> rcases unit with equal | equal <;>
      rw [equal] <;> rfl
  have total : chain.toLoop.shoelace = 2 * (turn * ((∑ y ∈ Finset.range mask.height,
      ∑ x ∈ Finset.range mask.width,
        (Chain.winding chain ((x : Int), (y : Int))).natAbs : Nat) : Int)) := by
    rw [traced.shoelace_toLoop listed]
    refine congrArg _ ?_
    rw [Nat.cast_sum, Finset.mul_sum]
    refine Finset.sum_congr rfl fun y _ => ?_
    rw [Nat.cast_sum, Finset.mul_sum]
    exact Finset.sum_congr rfl fun x _ => oriented _
  rw [total]
  rcases unit with equal | equal <;> rw [equal] <;> omega

/-- A chain that surrounds another one has the larger area. -/
theorem natAbs_shoelace_lt (traced : Traced mask chains) (listed : chain ∈ chains)
    (listedOther : other ∈ chains) (different : chain ≠ other) (surrounds : Surrounds other chain) :
    chain.toLoop.shoelace.natAbs < other.toLoop.shoelace.natAbs := by
  rcases traced.exists_turn listed with ⟨turn, unit, values⟩
  have counted : forall x y : Nat, (Chain.winding chain ((x : Int), (y : Int))).natAbs ≤
      (Chain.winding other ((x : Int), (y : Int))).natAbs := by
    intro x y
    have value := values ((x : Int), (y : Int))
    have within := traced.winding_ne_zero_of_surrounds listed listedOther different surrounds
      ((x : Int), (y : Int))
    omega
  rcases traced.exists_cell_of_surrounds listed listedOther different surrounds with
    ⟨x, y, ⟨column, row⟩, inside, outside⟩
  have rowSum : (∑ x ∈ Finset.range mask.width,
        (Chain.winding chain ((x : Int), (y : Int))).natAbs) <
      ∑ x ∈ Finset.range mask.width, (Chain.winding other ((x : Int), (y : Int))).natAbs := by
    refine Finset.sum_lt_sum (fun x _ => counted x y) ⟨x, Finset.mem_range.mpr column, ?_⟩
    rw [outside]
    exact Int.natAbs_pos.mpr inside
  rw [traced.natAbs_shoelace listed, traced.natAbs_shoelace listedOther]
  refine Nat.mul_lt_mul_of_pos_left ?_ Nat.two_pos
  exact Finset.sum_lt_sum (fun y _ => Finset.sum_le_sum fun x _ => counted x y)
    ⟨y, Finset.mem_range.mpr row, rowSum⟩

/-! ## The smallest loop around a cell -/

/-- A chain is the innermost one around a cell: every other chain around the cell
has a larger area. -/
def IsInnermost (chains : List Chain) (chain : Chain) (cell : Cell) : Prop :=
  chain ∈ chains ∧ Chain.winding chain cell ≠ 0 ∧
    forall other, other ∈ chains -> Chain.winding other cell ≠ 0 ->
      other = chain ∨ chain.toLoop.shoelace.natAbs < other.toLoop.shoelace.natAbs

/-- If all chains wind around a cell as around the cells beside one of them, that
one is the innermost. -/
theorem isInnermost_of_beside (traced : Traced mask chains) (listed : chain ∈ chains)
    (member : edge ∈ chain) (inside : Chain.winding chain cell ≠ 0)
    (alike : forall other, other ∈ chains -> chain ≠ other ->
      Chain.winding other cell = Chain.winding other edge.rightCell) :
    IsInnermost chains chain cell := by
  refine ⟨listed, inside, fun other listedOther insideOther => ?_⟩
  by_cases same : chain = other
  · exact Or.inl same.symm
  · rw [alike other listedOther same] at insideOther
    exact Or.inr (traced.natAbs_shoelace_lt listed listedOther same
      (traced.surrounds_of_mem listed listedOther member insideOther))

/-- The innermost loop around a filled cell is an outer boundary. -/
theorem exists_innermost_of_fills (traced : Traced mask chains) (isFilled : mask.fills cell = true) :
    Exists fun chain => IsInnermost chains chain cell ∧ 0 ≤ chain.toLoop.shoelace := by
  rcases traced.exists_outer isFilled with ⟨chain, listed, edge, member, outer, joined⟩
  have alike : forall other, other ∈ chains ->
      Chain.winding other edge.rightCell = Chain.winding other cell :=
    fun other listedOther =>
      traced.winding_eq_of_joined_sideNeighbours listedOther isFilled joined
  refine ⟨chain, traced.isInnermost_of_beside listed member ?_ fun other listedOther _ =>
    (alike other listedOther).symm, ?_⟩
  · rw [← alike chain listed, outer]
    decide
  · have sign := traced.shoelace_neg_iff listed member
    omega

/-- No chain winds around the corner of the ring. -/
theorem winding_origin (traced : Traced mask chains) (listed : chain ∈ chains) :
    Chain.winding chain (Mask.inward (0, 0)) = 0 := by
  rcases traced.exists_top listed with ⟨top, member, above, _⟩
  have bounds := traced.bounds_of_mem listed member
  exact above _ _ (by omega)

/-- Around an unfilled cell of the grid there is no loop at all, or the innermost
one is that of a hole. -/
theorem outside_or_exists_innermost (traced : Traced mask chains) {x y : Nat}
    (column : x < mask.width) (row : y < mask.height) (free : mask.filled x y = false) :
    (forall chain, chain ∈ chains -> Chain.winding chain ((x : Int), (y : Int)) = 0) ∨
      Exists fun chain => IsInnermost chains chain ((x : Int), (y : Int)) ∧
        chain.toLoop.shoelace < 0 := by
  have reached : mask.surroundings.fills (Mask.outward ((x : Int), (y : Int))) = true := by
    rw [Mask.fills_surroundings, Mask.inward_outward, Mask.fills_natCast]
    simp only [Mask.outward]
    exact ⟨by omega, by omega, free⟩
  by_cases enclosed : Joined Regions.neighbours mask.surroundings (0, 0)
      (Mask.outward ((x : Int), (y : Int)))
  · left
    intro chain listed
    have same := traced.winding_eq_of_joined_neighbours listed mask.fills_surroundings_origin enclosed
    rw [Mask.inward_outward] at same
    exact same.trans (traced.winding_origin listed)
  · right
    rcases traced.exists_inner reached enclosed with ⟨chain, listed, edge, member, inner, joined⟩
    have alike : forall other, other ∈ chains ->
        Chain.winding other edge.leftCell = Chain.winding other ((x : Int), (y : Int)) := by
      intro other listedOther
      have same := traced.winding_eq_of_joined_neighbours listedOther reached joined
      rw [Mask.inward_outward, Mask.inward_outward] at same
      exact same
    refine ⟨chain, traced.isInnermost_of_beside listed member ?_ fun other listedOther different => ?_,
      (traced.shoelace_neg_iff listed member).mpr inner⟩
    · rw [← alike chain listed, traced.winding_leftCell listed member, inner]
      decide
    · rw [← alike other listedOther]
      exact traced.winding_leftCell_of_ne listed listedOther different member

end Traced
end BattleMap
