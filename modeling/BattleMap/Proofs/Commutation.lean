import BattleMap.Proofs.Acceptance

namespace BattleMap

/-!
# In which order stamps may be applied

Two stamps of the same mode may trade places, and so may two stamps without a common
cell.  A filling and a turning stamp with a common cell may not: whatever the floor
plan was before, the two orders leave it different, in just the cells that both stamps
cover.

Of several turning stamps it matters only whether an odd number of them covers a cell,
and of several filling ones only whether there is one that does.  The former may
therefore be reordered and equal ones left out in pairs, and the latter may be reordered
and repeated ones left out.

All of this is decided cell by cell.  What stamps make of a whole floor plan comes in
only once, when a run over it is read as what it makes of each cell.
-/

namespace Stamp

/-- What stamps, one after the other, make of a cell. -/
def outcome (stamps : List Stamp) (x y : Nat) (wasFilled : Bool) : Bool :=
  (stamps.filter fun stamp => stamp.Covers x y).foldl (fun filled stamp => stamp.changed filled)
    wasFilled

/-- Two stamps have a cell in common. -/
def Meets (a b : Stamp) : Prop :=
  Exists fun x : Nat => Exists fun y : Nat => a.Covers x y ∧ b.Covers x y

variable {stamps : List Stamp}

theorem outcome_cons (stamp : Stamp) (stamps : List Stamp) (x y : Nat) (wasFilled : Bool) :
    outcome (stamp :: stamps) x y wasFilled =
      outcome stamps x y (if stamp.Covers x y then stamp.changed wasFilled else wasFilled) := by
  unfold outcome
  by_cases covers : stamp.Covers x y <;> simp [covers]

/-- Turning stamps turn a cell over if an odd number of them covers it. -/
theorem outcome_of_turns (turns : forall stamp, stamp ∈ stamps -> stamp.mode = .turn) (x y : Nat)
    (wasFilled : Bool) : outcome stamps x y wasFilled =
      (wasFilled != decide (Odd (stamps.countP fun stamp => stamp.Covers x y))) := by
  unfold outcome
  rw [foldl_changed_of_turns _ fun stamp member => turns stamp (List.mem_of_mem_filter member),
    List.countP_eq_length_filter]

/-- Filling stamps fill a cell if one of them covers it. -/
theorem outcome_of_fills (fills : forall stamp, stamp ∈ stamps -> stamp.mode = .fill) (x y : Nat)
    (wasFilled : Bool) : outcome stamps x y wasFilled =
      (wasFilled || stamps.any fun stamp => stamp.Covers x y) := by
  induction stamps generalizing wasFilled with
  | nil => exact (Bool.or_false wasFilled).symm
  | cons stamp rest later =>
      rw [outcome_cons, later fun other member => fills other (List.mem_cons_of_mem _ member),
        changed_of_fill (fills stamp List.mem_cons_self), List.any_cons, ← Bool.or_assoc]
      by_cases covers : stamp.Covers x y <;> simp [covers]

/-- Two stamps with different modes leave a cell different in the two orders if both cover
it, and nothing else makes a difference. -/
theorem outcome_pair_ne_iff (a b : Stamp) (x y : Nat) (wasFilled : Bool) :
    outcome [a, b] x y wasFilled ≠ outcome [b, a] x y wasFilled ↔
      a.mode ≠ b.mode ∧ a.Covers x y ∧ b.Covers x y := by
  have last : forall filled, outcome [] x y filled = filled := fun _ => rfl
  simp only [outcome_cons, last]
  by_cases coversFirst : a.Covers x y
  · by_cases coversSecond : b.Covers x y
    · simp only [coversFirst, coversSecond, if_true, and_true]
      unfold changed
      cases a.mode <;> cases b.mode <;> cases wasFilled <;> decide
    · simp [coversSecond]
  · simp [coversFirst]

/-- All cells of a stamp that lies in a grid are cells of the grid. -/
theorem LiesIn.lt_of_covers {stamp : Stamp} {width height : Int} (lies : stamp.LiesIn width height)
    {x y : Nat} (covers : stamp.Covers x y) : (x : Int) < width ∧ (y : Int) < height := by
  rcases lies with ⟨_, _, far, low⟩
  rcases covers with ⟨⟨_, column⟩, _, row⟩
  omega

end Stamp

namespace Mask

/-- On every floor plan of a grid, stamps have a result, and it is also that of the other
stamps. -/
def SameEffect (size : GridSize) (stamps others : List (Placed Stamp)) : Prop :=
  forall floor : Mask, floor.HasSize size -> Exists fun next =>
    stamps.foldlM applyStamp floor = .ok next ∧ others.foldlM applyStamp floor = .ok next

variable {size : GridSize} {floor : Mask} {stamps others : List (Placed Stamp)}

/-- Two masks are the same if they have the same size and the same filled cells. -/
theorem eq_of_filled_eq {mask other : Mask} (width : mask.width = other.width)
    (height : mask.height = other.height)
    (same : forall x y, x < mask.width -> y < mask.height -> mask.filled x y = other.filled x y) :
    mask = other := by
  calc
    mask = ofFn mask.width mask.height mask.filled := (ofFn_eq fun _ _ _ _ => rfl).symm
    _ = ofFn other.width other.height mask.filled := by rw [width, height]
    _ = other := ofFn_eq fun x y column row => same x y (width ▸ column) (height ▸ row)

/-- Stamps that lie in the grid are all applied, and every cell becomes what they make of it. -/
theorem exists_foldlM_applyStamp (sized : floor.HasSize size)
    (lie : forall stamp, stamp ∈ stamps -> stamp.item.LiesIn size.width size.height) :
    Exists fun next => stamps.foldlM applyStamp floor = .ok next ∧
      (next.width = floor.width ∧ next.height = floor.height) ∧
      forall x y, x < floor.width -> y < floor.height ->
        next.filled x y = Stamp.outcome (stamps.map (·.item)) x y (floor.filled x y) := by
  have applied : stamps.foldlM applyStamp floor = .ok ((stamps.map (·.item)).foldl stamped floor) := by
    induction stamps generalizing floor with
    | nil => rfl
    | cons stamp rest later =>
        have acceptable : stamp.item.IsAcceptable floor.width floor.height := by
          rcases lie stamp List.mem_cons_self with ⟨_, cells, far, low⟩
          rw [sized.1, sized.2]
          exact ⟨cells, Int.le_trans far (Int.self_le_toNat _), Int.le_trans low (Int.self_le_toNat _)⟩
        rw [List.foldlM_cons, floor.applyStamp_of_acceptable acceptable]
        exact later (sized.stamped stamp.item) fun other member =>
          lie other (List.mem_cons_of_mem _ member)
  refine ⟨_, applied, floor.size_foldl_stamped _, fun x y column row => ?_⟩
  refine floor.filled_foldl_stamped (fun stamp member => ?_) column row
  rcases List.mem_map.mp member with ⟨placed, listed, rfl⟩
  exact (lie placed listed).2.isNonneg (lie placed listed).1

/-- Stamps that make the same of every cell have the same effect. -/
theorem sameEffect_of_outcome
    (lie : forall stamp, stamp ∈ stamps -> stamp.item.LiesIn size.width size.height)
    (lieOther : forall stamp, stamp ∈ others -> stamp.item.LiesIn size.width size.height)
    (same : forall x y wasFilled, Stamp.outcome (stamps.map (·.item)) x y wasFilled =
      Stamp.outcome (others.map (·.item)) x y wasFilled) :
    SameEffect size stamps others := by
  intro floor sized
  rcases exists_foldlM_applyStamp sized lie with ⟨next, applied, sides, cells⟩
  rcases exists_foldlM_applyStamp sized lieOther with ⟨nextOther, appliedOther, sidesOther, cellsOther⟩
  have equal : nextOther = next := by
    refine eq_of_filled_eq (sidesOther.1.trans sides.1.symm) (sidesOther.2.trans sides.2.symm) ?_
    intro x y column row
    rw [sidesOther.1] at column
    rw [sidesOther.2] at row
    rw [cells x y column row, cellsOther x y column row, same]
  exact ⟨next, applied, equal ▸ appliedOther⟩

/-! ## Two stamps -/

section Pair

variable {a b : Placed Stamp}

/-- Stamps of the same mode, or without a common cell, may trade places. -/
theorem sameEffect_swap (lies : a.item.LiesIn size.width size.height)
    (liesOther : b.item.LiesIn size.width size.height)
    (apart : a.item.mode = b.item.mode ∨ ¬ a.item.Meets b.item) :
    SameEffect size [a, b] [b, a] := by
  refine sameEffect_of_outcome (List.forall_mem_cons.mpr ⟨lies, List.forall_mem_singleton.mpr liesOther⟩)
    (List.forall_mem_cons.mpr ⟨liesOther, List.forall_mem_singleton.mpr lies⟩) fun x y wasFilled => ?_
  by_contra different
  have shared := (Stamp.outcome_pair_ne_iff a.item b.item x y wasFilled).mp different
  rcases apart with same | separate
  · exact shared.1 same
  · exact separate ⟨x, y, shared.2⟩

/-- The two orders of stamps with different modes have results that differ in the cells that
both cover, and nowhere else. -/
theorem exists_foldlM_pair (lies : a.item.LiesIn size.width size.height)
    (liesOther : b.item.LiesIn size.width size.height) (modes : a.item.mode ≠ b.item.mode)
    (sized : floor.HasSize size) :
    Exists fun next => Exists fun other => [a, b].foldlM applyStamp floor = .ok next ∧
      [b, a].foldlM applyStamp floor = .ok other ∧
      forall x y, next.filled x y ≠ other.filled x y ↔ a.item.Covers x y ∧ b.item.Covers x y := by
  rcases exists_foldlM_applyStamp sized
    (List.forall_mem_cons.mpr ⟨lies, List.forall_mem_singleton.mpr liesOther⟩)
    with ⟨next, applied, sides, cells⟩
  rcases exists_foldlM_applyStamp sized
    (List.forall_mem_cons.mpr ⟨liesOther, List.forall_mem_singleton.mpr lies⟩)
    with ⟨other, appliedOther, sidesOther, cellsOther⟩
  refine ⟨next, other, applied, appliedOther, fun x y => ?_⟩
  by_cases inside : x < floor.width ∧ y < floor.height
  · rw [cells x y inside.1 inside.2, cellsOther x y inside.1 inside.2]
    exact (Stamp.outcome_pair_ne_iff a.item b.item x y _).trans (and_iff_right modes)
  · have emptyHere : next.filled x y = false :=
      filled_eq_false_of_not_lt (by rwa [sides.1, sides.2])
    have emptyThere : other.filled x y = false :=
      filled_eq_false_of_not_lt (by rwa [sidesOther.1, sidesOther.2])
    rw [emptyHere, emptyThere]
    refine ⟨fun different => absurd rfl different, fun shared => ?_⟩
    have bounds := lies.lt_of_covers shared.1
    rw [sized.1, sized.2] at inside
    omega

end Pair

/-! ## Many stamps of one mode -/

/-- The stamps lie in the grid and have the same mode. -/
def Uniform (size : GridSize) (mode : StampMode) (stamps : List (Placed Stamp)) : Prop :=
  forall stamp, stamp ∈ stamps -> stamp.item.LiesIn size.width size.height ∧ stamp.item.mode = mode

namespace Uniform

variable {mode : StampMode}

theorem of_subset (uniform : Uniform size mode stamps)
    (known : others.map (·.item) ⊆ stamps.map (·.item)) : Uniform size mode others := by
  intro other member
  rcases List.mem_map.mp (known (List.mem_map_of_mem member)) with ⟨stamp, listed, same⟩
  rw [← same]
  exact uniform stamp listed

theorem mode_eq (uniform : Uniform size mode stamps) :
    forall stamp, stamp ∈ stamps.map (·.item) -> stamp.mode = mode := by
  intro stamp member
  rcases List.mem_map.mp member with ⟨placed, listed, rfl⟩
  exact (uniform placed listed).2

end Uniform

/-- Turning stamps have the same effect if the same cells are covered an odd number of times. -/
theorem sameEffect_of_turns (turns : Uniform size .turn stamps)
    (known : others.map (·.item) ⊆ stamps.map (·.item))
    (parity : forall x y : Nat,
      Odd ((stamps.map (·.item)).countP fun stamp => stamp.Covers x y) ↔
        Odd ((others.map (·.item)).countP fun stamp => stamp.Covers x y)) :
    SameEffect size stamps others := by
  have turnsOther := turns.of_subset known
  refine sameEffect_of_outcome (fun stamp member => (turns stamp member).1)
    (fun stamp member => (turnsOther stamp member).1) fun x y wasFilled => ?_
  rw [Stamp.outcome_of_turns turns.mode_eq, Stamp.outcome_of_turns turnsOther.mode_eq,
    decide_eq_decide.mpr (parity x y)]

/-- Filling stamps have the same effect if the same ones occur, in whatever order and however
often. -/
theorem sameEffect_of_fills (fills : Uniform size .fill stamps)
    (same : forall stamp, stamp ∈ others.map (·.item) ↔ stamp ∈ stamps.map (·.item)) :
    SameEffect size stamps others := by
  have fillsOther := fills.of_subset fun stamp => (same stamp).mp
  refine sameEffect_of_outcome (fun stamp member => (fills stamp member).1)
    (fun stamp member => (fillsOther stamp member).1) fun x y wasFilled => ?_
  rw [Stamp.outcome_of_fills fills.mode_eq, Stamp.outcome_of_fills fillsOther.mode_eq,
    Bool.eq_iff_iff, Bool.or_eq_true, Bool.or_eq_true, List.any_eq_true, List.any_eq_true]
  simp only [same]

section Equal

variable {before between after : List (Placed Stamp)} {one other : Placed Stamp}

/-- Two equal turning stamps undo each other, also with other turning stamps between them. -/
theorem sameEffect_of_cancelled
    (turns : Uniform size .turn (before ++ one :: between ++ other :: after))
    (equal : one.item = other.item) :
    SameEffect size (before ++ one :: between ++ other :: after) (before ++ between ++ after) := by
  refine sameEffect_of_turns turns (fun stamp => ?_) fun x y => ?_
  · simp only [List.map_append, List.map_cons, List.mem_append, List.mem_cons]
    tauto
  · simp only [List.map_append, List.map_cons, List.countP_append, List.countP_cons, equal,
      Nat.odd_iff]
    split <;> omega

/-- Of two equal filling stamps the later one adds nothing. -/
theorem sameEffect_of_repeated
    (fills : Uniform size .fill (before ++ one :: between ++ other :: after))
    (equal : one.item = other.item) :
    SameEffect size (before ++ one :: between ++ other :: after) (before ++ one :: between ++ after) := by
  refine sameEffect_of_fills fills fun stamp => ?_
  simp only [List.map_append, List.map_cons, List.mem_append, List.mem_cons, equal]
  tauto

end Equal

/-! ## Whole documents -/

/-- With stamps of the same effect the floor plan of a document is the same, or its grid is
rejected as before. -/
theorem SameEffect.replay_eq (same : SameEffect size stamps others) :
    replay size stamps = replay size others := by
  unfold replay
  cases laidOut : forGrid size with
  | error fault => rfl
  | ok floor =>
      rcases same floor (hasSize_of_forGrid laidOut) with ⟨next, applied, appliedOther⟩
      exact applied.trans appliedOther.symm

/-- Two stamps of a grid may trade places if they have the same mode or no cell in common.
Otherwise the two orders come to different results on every floor plan of the grid.  Turning
stamps may be brought into any order, and equal ones may be left out in pairs; filling stamps
may be brought into any order, and repeated ones may be left out.  Then the floor plan of a
document stays the same as well. -/
theorem stamps_commutation (size : GridSize) :
    (forall a b : Placed Stamp, a.item.LiesIn size.width size.height ->
      b.item.LiesIn size.width size.height ->
        (a.item.mode = b.item.mode ∨ ¬ a.item.Meets b.item -> SameEffect size [a, b] [b, a]) ∧
        (a.item.mode ≠ b.item.mode -> a.item.Meets b.item ->
          forall floor : Mask, floor.HasSize size ->
            Exists fun next => Exists fun other => [a, b].foldlM applyStamp floor = .ok next ∧
              [b, a].foldlM applyStamp floor = .ok other ∧ next ≠ other ∧
              forall x y, next.filled x y ≠ other.filled x y ↔
                a.item.Covers x y ∧ b.item.Covers x y)) ∧
    (forall stamps, Uniform size .turn stamps ->
      (forall others, (others.map (·.item)).Perm (stamps.map (·.item)) ->
        SameEffect size stamps others) ∧
      (forall before one between other after,
        stamps = before ++ one :: between ++ other :: after -> one.item = other.item ->
          SameEffect size stamps (before ++ between ++ after))) ∧
    (forall stamps, Uniform size .fill stamps ->
      (forall others, (others.map (·.item)).Perm (stamps.map (·.item)) ->
        SameEffect size stamps others) ∧
      (forall before one between other after,
        stamps = before ++ one :: between ++ other :: after -> one.item = other.item ->
          SameEffect size stamps (before ++ one :: between ++ after))) ∧
    (forall stamps others, SameEffect size stamps others ->
      replay size stamps = replay size others) := by
  refine ⟨fun a b lies liesOther => ⟨sameEffect_swap lies liesOther, ?_⟩, fun stamps turns => ⟨?_, ?_⟩,
    fun stamps fills => ⟨?_, ?_⟩, fun stamps others same => same.replay_eq⟩
  · intro modes meets floor sized
    rcases exists_foldlM_pair lies liesOther modes sized with ⟨next, other, applied, appliedOther, cells⟩
    rcases meets with ⟨x, y, shared⟩
    have different : next ≠ other := by
      intro same
      exact (cells x y).mpr shared (by rw [same])
    exact ⟨next, other, applied, appliedOther, different, cells⟩
  · intro others reordered
    refine sameEffect_of_turns turns reordered.subset fun x y => ?_
    rw [reordered.countP_eq]
  · rintro before one between other after rfl equal
    exact sameEffect_of_cancelled turns equal
  · intro others reordered
    exact sameEffect_of_fills fills fun stamp => reordered.mem_iff
  · rintro before one between other after rfl equal
    exact sameEffect_of_repeated fills equal

/-- A square in the upper left corner of a map. -/
def filledCorner : Stamp := ⟨.fill, ⟨0, 0, 2, 2⟩⟩

/-- A square that has the cell in the lower right of the first one in common with it. -/
def turnedCorner : Stamp := ⟨.turn, ⟨1, 1, 2, 2⟩⟩

theorem stamps_commutation_corners :
    (filledCorner.LiesIn 3 3 ∧ turnedCorner.LiesIn 3 3) ∧ filledCorner.Meets turnedCorner ∧
      (Exists fun next => Exists fun other =>
        [⟨filledCorner, some 2, some 1⟩, ⟨turnedCorner, some 3, some 1⟩].foldlM applyStamp (blank 3 3) =
          .ok next ∧
        [⟨turnedCorner, some 3, some 1⟩, ⟨filledCorner, some 2, some 1⟩].foldlM applyStamp (blank 3 3) =
          .ok other ∧
        next.filled 1 1 ≠ other.filled 1 1) ∧
      replay (⟨3, 3⟩ : GridSize) [⟨filledCorner, some 2, some 1⟩, ⟨filledCorner, some 3, some 1⟩] =
        replay ⟨3, 3⟩ [⟨filledCorner, some 2, some 1⟩] ∧
      replay (⟨3, 3⟩ : GridSize) [⟨turnedCorner, some 2, some 1⟩, ⟨turnedCorner, some 3, some 1⟩] =
        replay (⟨3, 3⟩ : GridSize) [] := by
  have fills : filledCorner.LiesIn 3 3 := by
    unfold Stamp.LiesIn Stamp.StartsInside
    decide
  have turns : turnedCorner.LiesIn 3 3 := by
    unfold Stamp.LiesIn Stamp.StartsInside
    decide
  have meets : filledCorner.Meets turnedCorner := ⟨1, 1, by decide⟩
  rcases stamps_commutation ⟨3, 3⟩ with ⟨pairs, turning, filling, replays⟩
  rcases (pairs ⟨filledCorner, some 2, some 1⟩ ⟨turnedCorner, some 3, some 1⟩ fills turns).2 (by decide) meets
    (blank 3 3) ⟨rfl, rfl⟩ with ⟨next, other, applied, appliedOther, _, cells⟩
  have repeated := (filling [⟨filledCorner, some 2, some 1⟩, ⟨filledCorner, some 3, some 1⟩]
    (List.forall_mem_cons.mpr ⟨⟨fills, rfl⟩, List.forall_mem_singleton.mpr ⟨fills, rfl⟩⟩)).2
    [] _ [] _ [] rfl rfl
  have cancelled := (turning [⟨turnedCorner, some 2, some 1⟩, ⟨turnedCorner, some 3, some 1⟩]
    (List.forall_mem_cons.mpr ⟨⟨turns, rfl⟩, List.forall_mem_singleton.mpr ⟨turns, rfl⟩⟩)).2
    [] _ [] _ [] rfl rfl
  exact ⟨⟨fills, turns⟩, meets, ⟨next, other, applied, appliedOther, (cells 1 1).mpr (by decide)⟩,
    replays _ _ repeated, replays _ _ cancelled⟩

end Mask
end BattleMap
