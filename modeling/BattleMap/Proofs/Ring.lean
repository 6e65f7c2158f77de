import BattleMap.Proofs.Components

namespace BattleMap

open Regions (Cell Joined)

/-!
# Regions and holes of a mask

Regions are the classes of filled cells.  Holes are classes of unfilled cells,
with a ring of cells laid around the grid; a class that contains a cell of the
ring is not a hole.  The ring is connected, so there is one such class, and the
count of holes is that of the classes without it.
-/

namespace Mask

variable {mask : Mask} {cell : Cell}

/-- The regions of filled cells. -/
def regions (mask : Mask) : Set (Set Cell) :=
  Regions.classes Regions.sideNeighbours mask

/-- A cell of the ring around the grid. -/
def OnRing (mask : Mask) (cell : Cell) : Prop :=
  cell.1 = 0 ∨ cell.1 = mask.width + 1 ∨ cell.2 = 0 ∨ cell.2 = mask.height + 1

/-- The classes of unfilled cells without a cell of the ring. -/
def holes (mask : Mask) : Set (Set Cell) :=
  {cells | cells ∈ Regions.classes Regions.neighbours mask.surroundings ∧
    forall cell, cell ∈ cells -> ¬ mask.OnRing cell}

theorem regionCount_eq_ncard (mask : Mask) : mask.regionCount = mask.regions.ncard :=
  Regions.count_eq_ncard (fun _ _ => Regions.sideNeighbours_symm) mask

/-- Where a cell of the surroundings lies in the plane of the mask. -/
def inward (cell : Cell) : Cell :=
  (cell.1 - 1, cell.2 - 1)

/-- Where a cell of the plane lies in the surroundings: the ring comes first. -/
def outward (cell : Cell) : Cell :=
  (cell.1 + 1, cell.2 + 1)

theorem inward_outward (cell : Cell) : inward (outward cell) = cell := by
  simp [inward, outward]

theorem outward_inward (cell : Cell) : outward (inward cell) = cell := by
  simp [inward, outward]

theorem mem_neighbours_inward {a b : Cell} (adjacent : b ∈ Regions.neighbours a) :
    inward b ∈ Regions.neighbours (inward a) := by
  rw [Regions.mem_neighbours] at adjacent ⊢
  rcases a with ⟨x, y⟩
  rcases b with ⟨u, v⟩
  simpa [Regions.touch, inward] using adjacent

theorem mem_neighbours_outward {a b : Cell} (adjacent : b ∈ Regions.neighbours a) :
    outward b ∈ Regions.neighbours (outward a) := by
  rw [Regions.mem_neighbours] at adjacent ⊢
  rcases a with ⟨x, y⟩
  rcases b with ⟨u, v⟩
  simpa [Regions.touch, outward] using adjacent

theorem fills_surroundings :
    mask.surroundings.fills cell = true ↔
      (0 ≤ cell.1 ∧ cell.1 < mask.width + 2) ∧ (0 ≤ cell.2 ∧ cell.2 < mask.height + 2) ∧
        mask.fills (inward cell) = false := by
  rcases cell with ⟨x, y⟩
  rw [fills_eq_true_iff]
  unfold surroundings
  rw [filled_ofFn]
  simp only [Bool.and_eq_true, decide_eq_true_eq, Bool.not_eq_true']
  constructor
  · rintro ⟨right, below, ⟨column, row⟩, free⟩
    rw [Int.toNat_of_nonneg right, Int.toNat_of_nonneg below] at free
    exact ⟨by omega, by omega, free⟩
  · rintro ⟨column, row, free⟩
    rw [Int.toNat_of_nonneg column.1, Int.toNat_of_nonneg row.1]
    exact ⟨column.1, row.1, by omega, free⟩

theorem fills_surroundings_of_onRing (ring : mask.OnRing cell) (right : 0 ≤ cell.1)
    (left : cell.1 < mask.width + 2) (below : 0 ≤ cell.2) (above : cell.2 < mask.height + 2) :
    mask.surroundings.fills cell = true := by
  apply fills_surroundings.mpr
  refine ⟨⟨right, left⟩, ⟨below, above⟩, ?_⟩
  apply Bool.eq_false_iff.mpr
  intro isFilled
  have inside := bounds_of_fills isFilled
  unfold OnRing at ring
  unfold inward at inside
  omega

/-! ## The ring -/

private theorem joined_of_steps (path : Nat -> Cell) (count : Nat)
    (steps : forall i, i < count ->
      Regions.Step Regions.neighbours mask.surroundings (path i) (path (i + 1))) :
    Joined Regions.neighbours mask.surroundings (path 0) (path count) := by
  induction count with
  | zero => exact Relation.ReflTransGen.refl
  | succ count shorter =>
      exact Relation.ReflTransGen.tail (shorter fun i before => steps i (by omega))
        (steps count (by omega))

private theorem joined_in_row {y : Int} (border : y = 0 ∨ y = mask.height + 1) (count : Nat)
    (within : count ≤ mask.width + 1) :
    Joined Regions.neighbours mask.surroundings (0, y) ((count : Int), y) := by
  apply joined_of_steps (fun i => ((i : Int), y)) count
  intro i before
  refine ⟨?_, fills_surroundings_of_onRing (by unfold OnRing; omega) ?_ ?_ ?_ ?_⟩
  · simp [Regions.neighbours, Regions.sideNeighbours]
  all_goals dsimp only
  all_goals omega

private theorem joined_in_column {x : Int} (border : x = 0 ∨ x = mask.width + 1) (count : Nat)
    (within : count ≤ mask.height + 1) :
    Joined Regions.neighbours mask.surroundings (x, 0) (x, (count : Int)) := by
  apply joined_of_steps (fun i => (x, (i : Int))) count
  intro i before
  refine ⟨?_, fills_surroundings_of_onRing (by unfold OnRing; omega) ?_ ?_ ?_ ?_⟩
  · simp [Regions.neighbours, Regions.sideNeighbours]
  all_goals dsimp only
  all_goals omega

/-- The whole ring belongs to the class of its first cell. -/
theorem joined_of_onRing (ring : mask.OnRing cell) (isFilled : mask.surroundings.fills cell = true) :
    Joined Regions.neighbours mask.surroundings (0, 0) cell := by
  rcases cell with ⟨x, y⟩
  rcases fills_surroundings.mp isFilled with ⟨column, row, _⟩
  dsimp only at column row
  have placeX : x = (x.toNat : Int) := (Int.toNat_of_nonneg column.1).symm
  have placeY : y = (y.toNat : Int) := (Int.toNat_of_nonneg row.1).symm
  have toRight : Joined Regions.neighbours mask.surroundings (0, 0) ((mask.width : Int) + 1, 0) :=
    joined_in_row (Or.inl rfl) (mask.width + 1) (Nat.le_refl _)
  have toBottom : Joined Regions.neighbours mask.surroundings (0, 0) (0, (mask.height : Int) + 1) :=
    joined_in_column (Or.inl rfl) (mask.height + 1) (Nat.le_refl _)
  rcases ring with left | right | top | bottom
  · dsimp only at left
    rw [left, placeY]
    exact joined_in_column (Or.inl rfl) _ (by omega)
  · dsimp only at right
    rw [right, placeY]
    exact Relation.ReflTransGen.trans toRight (joined_in_column (Or.inr rfl) _ (by omega))
  · dsimp only at top
    rw [top, placeX]
    exact joined_in_row (Or.inl rfl) _ (by omega)
  · dsimp only at bottom
    rw [bottom, placeX]
    exact Relation.ReflTransGen.trans toBottom (joined_in_row (Or.inr rfl) _ (by omega))

theorem fills_surroundings_origin (mask : Mask) : mask.surroundings.fills (0, 0) = true :=
  fills_surroundings_of_onRing (Or.inl rfl) (Int.le_refl 0) (by dsimp only; omega) (Int.le_refl 0)
    (by dsimp only; omega)

/-- The holes are the classes of unfilled cells without that of the ring. -/
theorem holes_eq (mask : Mask) :
    mask.holes = Regions.classes Regions.neighbours mask.surroundings \
      {Regions.classOf Regions.neighbours mask.surroundings (0, 0)} := by
  ext cells
  constructor
  · rintro ⟨listed, inside⟩
    refine ⟨listed, ?_⟩
    intro same
    have origin : ((0, 0) : Cell) ∈ cells := same ▸ Regions.mem_classOf_self _ _ _
    exact inside _ origin (Or.inl rfl)
  · rintro ⟨⟨cell, isFilled, rfl⟩, different⟩
    refine ⟨⟨cell, isFilled, rfl⟩, ?_⟩
    intro other joined ring
    apply different
    have reached := joined_of_onRing ring (Joined.fills joined isFilled)
    have back := joined.symm (fun _ _ => Regions.neighbours_symm) isFilled
    exact Regions.classOf_eq (fun _ _ => Regions.neighbours_symm) mask.fills_surroundings_origin
      (Relation.ReflTransGen.trans reached back)

theorem holeCount_eq_ncard (mask : Mask) : mask.holeCount = mask.holes.ncard := by
  unfold holeCount
  rw [Regions.count_eq_ncard (fun _ _ => Regions.neighbours_symm), holes_eq,
    Regions.classes_withoutClass (fun _ _ => Regions.neighbours_symm) mask.fills_surroundings_origin]

end Mask
end BattleMap
