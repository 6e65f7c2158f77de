import BattleMap.Proofs.Naming
import BattleMap.Proofs.Stamping

namespace BattleMap

/-!
# Which stamps are accepted, and what they change

A stamp is looked at before anything is changed, so a rejected one leaves the
floor plan as it was, and whether it is rejected depends on the size of the grid
alone.  Stamps that are tried one after the other therefore leave the cells
filled that the accepted ones among them would leave filled on their own.

Only the far corner of a stamp is compared with the grid.  For a stamp that does
not start before the grid this is enough: it is applied exactly if it lies in the
grid, and only its own cells change.  A stamp that starts before the grid can pass
all the same, and its cells are then counted from the far end.

A stamp that is not acceptable is refused by its text.  If one of its numbers is too long
to be written, it cannot be named, and the outcome is that a number has too many digits.
The floor plan stays as it is all the same.
-/

namespace Axis

/-- The place that a bound stands for: below zero it counts from the far end. -/
def counted (length : Nat) (bound : Int) : Int :=
  if bound < 0 then bound + length else bound

theorem contains_span_iff {length : Nat} {low high : Int} {i : Nat} (onAxis : i < length) :
    (span length low high).contains i = true ↔ counted length low ≤ i ∧ i < counted length high := by
  have bounded : forall bound, place length bound = min length (counted length bound).toNat :=
    fun _ => rfl
  simp only [Span.contains, span, bounded, Bool.and_eq_true, decide_eq_true_eq]
  omega

end Axis

namespace Stamp

/-- A stamp has cells, and none of them lies behind the far edges of a grid. -/
def IsAcceptable (stamp : Stamp) (width height : Int) : Prop :=
  (0 < stamp.area.width ∧ 0 < stamp.area.height) ∧
    stamp.area.x + stamp.area.width ≤ width ∧ stamp.area.y + stamp.area.height ≤ height

instance (stamp : Stamp) (width height : Int) : Decidable (stamp.IsAcceptable width height) :=
  inferInstanceAs (Decidable (_ ∧ _))

/-- A stamp has no cells, or reaches past a far edge of a grid. -/
def Overreaches (stamp : Stamp) (width height : Int) : Prop :=
  stamp.area.width ≤ 0 ∨ stamp.area.height ≤ 0 ∨
    width < stamp.area.x + stamp.area.width ∨ height < stamp.area.y + stamp.area.height

instance (stamp : Stamp) (width height : Int) : Decidable (stamp.Overreaches width height) :=
  inferInstanceAs (Decidable (_ ∨ _))

theorem overreaches_iff {stamp : Stamp} {width height : Int} :
    stamp.Overreaches width height ↔ ¬ stamp.IsAcceptable width height := by
  unfold Overreaches IsAcceptable
  omega

/-- A stamp does not start before the grid. -/
def StartsInside (stamp : Stamp) : Prop :=
  0 ≤ stamp.area.x ∧ 0 ≤ stamp.area.y

/-- A stamp has cells, and all of them are cells of a grid. -/
def LiesIn (stamp : Stamp) (width height : Int) : Prop :=
  stamp.StartsInside ∧ stamp.IsAcceptable width height

/-- The acceptable stamps among the given ones. -/
def accepted (width height : Int) (stamps : List (Placed Stamp)) : List Stamp :=
  (stamps.map (·.item)).filter fun stamp => stamp.IsAcceptable width height

/-- What is said of a stamp that is not acceptable. -/
def objection (stamp : Stamp) (width height : Nat) : String :=
  if stamp.area.width ≤ 0 ∨ stamp.area.height ≤ 0 then "width and height must be positive"
  else "extends past the " ++ Decimal.ofNat width ++ "x" ++ Decimal.ofNat height ++ " grid"

instance (stamps : List Stamp) : Decidable (LeaveFilled stamps) :=
  decidable_of_iff _ (foldl_changed_eq_true_iff stamps)

/-- Only the size of the grid and the stamp itself decide, and a rejected stamp is
reported at its own position. -/
theorem check_eq (width height : Nat) (stamp : Placed Stamp) :
    check width height stamp =
      if stamp.item.IsAcceptable width height then .ok ()
      else stamp.reject stamp.item.text (stamp.item.objection width height) := by
  have opened : check width height stamp =
      if stamp.item.area.width ≤ 0 ∨ stamp.item.area.height ≤ 0 then
        stamp.reject stamp.item.text (stamp.item.objection width height)
      else if (width : Int) < stamp.item.area.x + stamp.item.area.width then
        stamp.reject stamp.item.text (stamp.item.objection width height)
      else if (height : Int) < stamp.item.area.y + stamp.item.area.height then
        stamp.reject stamp.item.text (stamp.item.objection width height)
      else .ok () := by
    unfold check objection Placed.reject
    simp only [Coordinate.atMost_int, Coordinate.below_int, Coordinate.add_int, Coordinate.ofInt_int,
      Bool.or_eq_true, decide_eq_true_eq]
    cases stamp.item.text <;> split <;> rfl
  rw [opened]
  by_cases acceptable : stamp.item.IsAcceptable width height
  · have ⟨⟨wide, high⟩, far, low⟩ := acceptable
    rw [if_pos acceptable, if_neg (by omega), if_neg (by omega), if_neg (by omega)]
  · rw [if_neg acceptable]
    split
    · rfl
    · split
      · rfl
      · split
        · rfl
        · exact absurd ⟨by omega, by omega, by omega⟩ acceptable

theorem IsAcceptable.isNonneg {stamp : Stamp} {width height : Int}
    (acceptable : stamp.IsAcceptable width height) (starts : stamp.StartsInside) : stamp.IsNonneg :=
  ⟨starts, Int.le_of_lt acceptable.1.1, Int.le_of_lt acceptable.1.2⟩

end Stamp

namespace Mask

variable (floor : Mask)

/-- The whole of what a stamp can come to. -/
theorem applyStamp_eq (stamp : Placed Stamp) :
    floor.applyStamp stamp =
      if stamp.item.IsAcceptable floor.width floor.height then .ok (floor.stamped stamp.item)
      else stamp.reject stamp.item.text (stamp.item.objection floor.width floor.height) := by
  unfold applyStamp Placed.reject
  rw [Stamp.check_eq, Stamp.inWholes_int]
  unfold Placed.reject
  cases stamp.item.text <;> split <;> rfl

theorem applyStamp_of_acceptable {stamp : Placed Stamp}
    (acceptable : stamp.item.IsAcceptable floor.width floor.height) :
    floor.applyStamp stamp = .ok (floor.stamped stamp.item) := by
  rw [applyStamp_eq, if_pos acceptable]

theorem applyStamp_of_not_acceptable {stamp : Placed Stamp}
    (rejected : ¬ stamp.item.IsAcceptable floor.width floor.height) :
    floor.applyStamp stamp =
      stamp.reject stamp.item.text (stamp.item.objection floor.width floor.height) := by
  rw [applyStamp_eq, if_neg rejected]

/-- A stamp has a result exactly if it is acceptable. -/
theorem exists_applyStamp_iff {stamp : Placed Stamp} :
    (Exists fun next => floor.applyStamp stamp = .ok next) ↔
      stamp.item.IsAcceptable floor.width floor.height := by
  constructor
  · rintro ⟨next, applied⟩
    by_contra rejected
    rw [floor.applyStamp_of_not_acceptable rejected] at applied
    exact Placed.reject_ne_ok applied
  · exact fun acceptable => ⟨_, floor.applyStamp_of_acceptable acceptable⟩

/-- A stamp is refused as out of range. -/
def Refuses (stamp : Placed Stamp) : Prop :=
  stamp.IsRefusal stamp.item.text (floor.applyStamp stamp)

/-- The stamps that are refused are the ones that overreach the floor plan. -/
def JudgesExactly (stamp : Placed Stamp) : Prop :=
  floor.Refuses stamp ↔ stamp.item.Overreaches floor.width floor.height

theorem judged_applyStamp (stamp : Placed Stamp) :
    stamp.Judged stamp.item.text (floor.applyStamp stamp) := by
  rw [applyStamp_eq]
  split
  · exact .inl ⟨_, rfl⟩
  · exact .inr ⟨_, rfl⟩

theorem overreaches_iff_not_exists_applyStamp {stamp : Placed Stamp} :
    stamp.item.Overreaches floor.width floor.height ↔
      ¬ Exists fun next => floor.applyStamp stamp = .ok next := by
  rw [Stamp.overreaches_iff, exists_applyStamp_iff]

/-- A stamp is refused exactly if it overreaches and can be named. -/
theorem refuses_iff {stamp : Placed Stamp} :
    floor.Refuses stamp ↔
      stamp.item.Overreaches floor.width floor.height ∧ stamp.item.IsWritable := by
  rw [overreaches_iff_not_exists_applyStamp]
  exact stamp.item.writtenIf_text.isRefusal_iff (floor.judged_applyStamp stamp)

theorem applyStamp_eq_tooManyDigits_iff {stamp : Placed Stamp} :
    floor.applyStamp stamp = .error .tooManyDigits ↔
      stamp.item.Overreaches floor.width floor.height ∧ ¬ stamp.item.IsWritable := by
  rw [overreaches_iff_not_exists_applyStamp]
  exact stamp.item.writtenIf_text.eq_tooManyDigits_iff (floor.judged_applyStamp stamp)

/-! ## Several stamps -/

theorem size_foldl_stamped (stamps : List Stamp) :
    (stamps.foldl stamped floor).width = floor.width ∧
      (stamps.foldl stamped floor).height = floor.height := by
  induction stamps generalizing floor with
  | nil => exact ⟨rfl, rfl⟩
  | cons stamp rest later =>
      have onward := later (floor.stamped stamp)
      rw [width_stamped, height_stamped] at onward
      exact onward

/-- What stamps that do not start before the grid make of a cell. -/
theorem filled_foldl_stamped {stamps : List Stamp}
    (nonneg : forall stamp, stamp ∈ stamps -> stamp.IsNonneg) {x y : Nat} (column : x < floor.width)
    (row : y < floor.height) :
    (stamps.foldl stamped floor).filled x y =
      (stamps.filter fun stamp => stamp.Covers x y).foldl
        (fun filled stamp => stamp.changed filled) (floor.filled x y) := by
  induction stamps generalizing floor with
  | nil => rfl
  | cons stamp rest later =>
      have behind := later (floor.stamped stamp)
        (fun other member => nonneg other (List.mem_cons_of_mem _ member))
        (floor.width_stamped stamp ▸ column) (floor.height_stamped stamp ▸ row)
      rw [List.foldl_cons, behind,
        floor.filled_stamped_of_isNonneg (nonneg stamp List.mem_cons_self) column row]
      by_cases covers : stamp.Covers x y <;> simp [covers]

/-- The floor plan after a stamp that is passed over if it is rejected. -/
def tryStamp (stamp : Placed Stamp) : Mask :=
  match floor.applyStamp stamp with
  | .ok next => next
  | .error _ => floor

/-- The floor plan after stamps of which the rejected ones are passed over. -/
def tryStamps (stamps : List (Placed Stamp)) : Mask :=
  stamps.foldl tryStamp floor

theorem tryStamp_of_acceptable {stamp : Placed Stamp}
    (acceptable : stamp.item.IsAcceptable floor.width floor.height) :
    floor.tryStamp stamp = floor.stamped stamp.item := by
  unfold tryStamp
  rw [floor.applyStamp_of_acceptable acceptable]

theorem tryStamp_of_not_acceptable {stamp : Placed Stamp}
    (rejected : ¬ stamp.item.IsAcceptable floor.width floor.height) :
    floor.tryStamp stamp = floor := by
  unfold tryStamp
  split
  · rename_i next applied
    exact absurd (floor.exists_applyStamp_iff.mp ⟨next, applied⟩) rejected
  · rfl

/-- The rejected stamps leave no trace. -/
theorem tryStamps_eq (stamps : List (Placed Stamp)) :
    floor.tryStamps stamps = (Stamp.accepted floor.width floor.height stamps).foldl stamped floor := by
  unfold tryStamps
  induction stamps generalizing floor with
  | nil => rfl
  | cons stamp rest later =>
      rw [List.foldl_cons, later]
      by_cases acceptable : stamp.item.IsAcceptable floor.width floor.height
      · rw [floor.tryStamp_of_acceptable acceptable, width_stamped, height_stamped]
        simp [Stamp.accepted, acceptable]
      · rw [floor.tryStamp_of_not_acceptable acceptable]
        simp [Stamp.accepted, acceptable]

theorem size_tryStamps (stamps : List (Placed Stamp)) :
    (floor.tryStamps stamps).width = floor.width ∧
      (floor.tryStamps stamps).height = floor.height := by
  rw [tryStamps_eq]
  exact floor.size_foldl_stamped _

/-- A grid with cells starts without filled ones, if it can be held in memory. -/
theorem forGrid_of_positive {size : GridSize} (positive : 0 < size.width ∧ 0 < size.height) :
    forGrid size = (Memory.checkGrid 1 size.width size.height).map fun _ =>
      blank size.width.toNat size.height.toNat := by
  unfold forGrid
  rw [if_pos (GridSize.isPositive_iff.mpr positive)]
  cases fits : Memory.checkGrid 1 size.width size.height with
  | error fault => rfl
  | ok sides =>
      rw [Memory.eq_of_checkGrid_eq_ok fits]
      rfl

/-- Stamps that do not start before the grid are tried one after the other, and
the rejected ones are passed over.  Whatever was tried before, a stamp is rejected
exactly if it has no cells or reaches past a far edge, and then the floor plan stays as
it is.  It is refused as out of range if its numbers can be written, and otherwise for a
number that is too long.  In the end those cells are filled that the accepted stamps
leave filled, and the floor plan still has the size of its grid. -/
theorem tryStamps_leaveFilled {size : GridSize} (positive : 0 < size.width ∧ 0 < size.height)
    {stamps : List (Placed Stamp)}
    (starts : forall stamp, stamp ∈ stamps -> stamp.item.StartsInside) :
    (forGrid size = (Memory.checkGrid 1 size.width size.height).map fun _ =>
      blank size.width.toNat size.height.toNat) ∧
    (forall before stamp after, stamps = before ++ stamp :: after ->
      forall floor, floor = (blank size.width.toNat size.height.toNat).tryStamps before ->
        (floor.JudgesExactly stamp ↔
          (stamp.item.Overreaches size.width size.height -> stamp.item.IsWritable)) ∧
        (floor.Refuses stamp ↔
          stamp.item.Overreaches size.width size.height ∧ stamp.item.IsWritable) ∧
        (floor.applyStamp stamp = .error .tooManyDigits ↔
          stamp.item.Overreaches size.width size.height ∧ ¬ stamp.item.IsWritable) ∧
        ((Exists fun next => floor.applyStamp stamp = .ok next) ↔
          stamp.item.IsAcceptable size.width size.height) ∧
        (¬ stamp.item.IsAcceptable size.width size.height -> floor.tryStamp stamp = floor)) ∧
    forall floor, floor = (blank size.width.toNat size.height.toNat).tryStamps stamps ->
      floor.width = size.width.toNat ∧ floor.height = size.height.toNat ∧
      forall x y, x < floor.width -> y < floor.height ->
        (floor.filled x y = true ↔
          Stamp.LeaveFilled ((Stamp.accepted size.width size.height stamps).filter
            fun stamp => stamp.Covers x y)) := by
  have width : ((size.width.toNat : Nat) : Int) = size.width := Int.toNat_of_nonneg (by omega)
  have height : ((size.height.toNat : Nat) : Int) = size.height := Int.toNat_of_nonneg (by omega)
  refine ⟨forGrid_of_positive positive, ?_, ?_⟩
  · rintro before stamp after - floor rfl
    have sameSize := (blank size.width.toNat size.height.toNat).size_tryStamps before
    have acceptance : stamp.item.IsAcceptable
        ((blank size.width.toNat size.height.toNat).tryStamps before).width
        ((blank size.width.toNat size.height.toNat).tryStamps before).height ↔
        stamp.item.IsAcceptable size.width size.height := by
      rw [sameSize.1, sameSize.2]
      change stamp.item.IsAcceptable size.width.toNat size.height.toNat ↔ _
      rw [width, height]
    have excess := not_congr acceptance
    rw [← Stamp.overreaches_iff, ← Stamp.overreaches_iff] at excess
    refine ⟨?_, ?_, ?_, ?_, ?_⟩
    · unfold JudgesExactly
      rw [refuses_iff, and_iff_left_iff_imp, excess]
    · rw [refuses_iff, excess]
    · rw [applyStamp_eq_tooManyDigits_iff, excess]
    · rw [exists_applyStamp_iff, acceptance]
    · exact fun rejected => tryStamp_of_not_acceptable _ (mt acceptance.mp rejected)
  · rintro floor rfl
    have sameSize := (blank size.width.toNat size.height.toNat).size_tryStamps stamps
    refine ⟨sameSize.1, sameSize.2, ?_⟩
    intro x y left low
    rw [sameSize.1] at left
    rw [sameSize.2] at low
    have nonneg : forall stamp, stamp ∈ Stamp.accepted size.width size.height stamps ->
        stamp.IsNonneg := by
      intro stamp member
      rcases List.mem_filter.mp member with ⟨listed, acceptable⟩
      rcases List.mem_map.mp listed with ⟨placed, placedMember, rfl⟩
      exact (of_decide_eq_true acceptable).isNonneg (starts placed placedMember)
    rw [tryStamps_eq]
    change (((Stamp.accepted size.width.toNat size.height.toNat stamps).foldl stamped _).filled x y =
      true ↔ _)
    rw [width, height, filled_foldl_stamped _ nonneg left low, filled_blank,
      Stamp.foldl_changed_eq_true_iff]

/-- A hall whose right half is turned over.  The third stamp reaches past the right
edge and the fourth has no cells. -/
def hallStamps : List (Placed Stamp) :=
  [⟨⟨.fill, ⟨0, 0, 2, 2⟩⟩, some 2, some 1⟩, ⟨⟨.turn, ⟨1, 0, 2, 1⟩⟩, some 3, some 1⟩,
    ⟨⟨.turn, ⟨2, 1, 2, 1⟩⟩, some 4, some 1⟩, ⟨⟨.fill, ⟨0, 0, 0, 1⟩⟩, some 5, some 1⟩,
    ⟨⟨.turn, ⟨1, 1, 1, 1⟩⟩, some 6, some 1⟩]

theorem tryStamps_hallStamps :
    (0 < (3 : Int) ∧ 0 < (2 : Int)) ∧
      (forall stamp, stamp ∈ hallStamps -> stamp.item.StartsInside) ∧
      (Exists fun reason => ((blank 3 2).tryStamps (hallStamps.take 2)).applyStamp hallStamps[2] =
        .error (.outOfRange "xor rect at 2,1 width 2 height 1" reason (some 4) (some 1))) ∧
      ((blank 3 2).tryStamps hallStamps).width = 3 ∧ ((blank 3 2).tryStamps hallStamps).height = 2 ∧
      ((blank 3 2).tryStamps hallStamps).filled 2 0 = true ∧
      ¬ ((blank 3 2).tryStamps hallStamps).filled 1 1 = true := by
  have starts : forall stamp, stamp ∈ hallStamps -> stamp.item.StartsInside := by
    unfold Stamp.StartsInside
    decide
  rcases @tryStamps_leaveFilled ⟨3, 2⟩ (by decide) hallStamps starts with ⟨_, each, whole⟩
  have third := each (hallStamps.take 2) hallStamps[2] (hallStamps.drop 3) rfl _ rfl
  rcases third.2.1.mpr ⟨by decide, by decide +kernel⟩ with ⟨subject, reason, named, refused⟩
  have text : hallStamps[2].item.text = .ok "xor rect at 2,1 width 2 height 1" := by
    decide +kernel
  have same : subject = "xor rect at 2,1 width 2 height 1" := Except.ok.inj (named.symm.trans text)
  rcases whole _ rfl with ⟨width, height, filled⟩
  refine ⟨by decide, starts, ⟨reason, same ▸ refused⟩, width, height, ?_, ?_⟩
  · exact (filled 2 0 (by rw [width]; decide) (by rw [height]; decide)).mpr (by decide)
  · exact fun isFilled =>
      absurd ((filled 1 1 (by rw [width]; decide) (by rw [height]; decide)).mp isFilled) (by decide)

/-- A stamp whose width is too long to be written. -/
def endlessStamp : Placed Stamp :=
  ⟨⟨.fill, ⟨0, 0, Decimal.writtenLimit, 1⟩⟩, some 0, some 0⟩

theorem not_judgesExactly_endlessStamp :
    endlessStamp.item.StartsInside ∧ ¬ (blank 1 1).JudgesExactly endlessStamp ∧
      (blank 1 1).applyStamp endlessStamp = .error .tooManyDigits := by
  have long : ¬ endlessStamp.item.IsWritable := fun writable =>
    Decimal.not_isWritable_writtenLimit writable.2.1
  have past : endlessStamp.item.Overreaches (blank 1 1).width (blank 1 1).height := by
    have wide : 1 < Decimal.writtenLimit := by decide +kernel
    refine .inr (.inr (.inl ?_))
    change (1 : Int) < 0 + (Decimal.writtenLimit : Int)
    omega
  exact ⟨⟨Int.le_refl 0, Int.le_refl 0⟩,
    fun exact => long ((blank 1 1).refuses_iff.mp (exact.mpr past)).2,
    (blank 1 1).applyStamp_eq_tooManyDigits_iff.mpr ⟨past, long⟩⟩

/-! ## Stamps that do not lie in the grid -/

/-- The floor plan admits a stamp only if it lies in the grid, and does not change
outside of it. -/
def KeepsWithin (stamp : Placed Stamp) : Prop :=
  (¬ stamp.item.LiesIn floor.width floor.height -> floor.Refuses stamp) ∧
  (stamp.item.LiesIn floor.width floor.height -> Exists fun next =>
    floor.applyStamp stamp = .ok next) ∧
  forall next, floor.applyStamp stamp = .ok next ->
    next.width = floor.width ∧ next.height = floor.height ∧
      forall x y, next.filled x y ≠ floor.filled x y -> stamp.item.Covers x y

/-- An acceptable stamp changes the cells that it covers when bounds below zero are
counted from the far end, and no others. -/
theorem filled_stamped_eq (stamp : Stamp) {x y : Nat} (column : x < floor.width)
    (row : y < floor.height) :
    (floor.stamped stamp).filled x y =
      if (Axis.counted floor.width stamp.area.x ≤ x ∧
          x < Axis.counted floor.width (stamp.area.x + stamp.area.width)) ∧
        Axis.counted floor.height stamp.area.y ≤ y ∧
          y < Axis.counted floor.height (stamp.area.y + stamp.area.height)
      then stamp.changed (floor.filled x y) else floor.filled x y := by
  rw [filled_stamped floor stamp column row]
  unfold Stamp.coversCell
  simp only [Bool.and_eq_true, Stamp.columns, Stamp.rows, Axis.contains_span_iff column,
    Axis.contains_span_iff row]

/-- Stamps that start inside change only their own cells. -/
theorem covers_of_filled_stamped_ne {stamp : Stamp} (nonneg : stamp.IsNonneg) {x y : Nat}
    (changed : (floor.stamped stamp).filled x y ≠ floor.filled x y) : stamp.Covers x y := by
  by_cases inside : x < floor.width ∧ y < floor.height
  · rw [floor.filled_stamped_of_isNonneg nonneg inside.1 inside.2] at changed
    by_contra covers
    exact changed (if_neg covers)
  · have outside : ¬ (x < (floor.stamped stamp).width ∧ y < (floor.stamped stamp).height) := by
      rwa [width_stamped, height_stamped]
    rw [filled_eq_false_of_not_lt inside, filled_eq_false_of_not_lt outside] at changed
    exact absurd rfl changed

/-- The floor plan keeps a stamp within the grid unless the stamp starts before the
grid although its size and its far corner are acceptable.  Such a stamp is applied
all the same, and its bounds below zero are counted from the far end.  A stamp whose size
or far corner is not acceptable has to have numbers that can be written, or it is not
refused as out of range. -/
theorem keepsWithin_iff (stamp : Placed Stamp) :
    (floor.KeepsWithin stamp ↔
      (stamp.item.IsAcceptable floor.width floor.height -> stamp.item.StartsInside) ∧
        (¬ stamp.item.IsAcceptable floor.width floor.height -> stamp.item.IsWritable)) ∧
    (stamp.item.IsAcceptable floor.width floor.height -> Exists fun next =>
      floor.applyStamp stamp = .ok next ∧ next.width = floor.width ∧ next.height = floor.height ∧
        forall x y : Nat, x < floor.width -> y < floor.height -> next.filled x y =
          if (Axis.counted floor.width stamp.item.area.x ≤ x ∧
              x < Axis.counted floor.width (stamp.item.area.x + stamp.item.area.width)) ∧
            Axis.counted floor.height stamp.item.area.y ≤ y ∧
              y < Axis.counted floor.height (stamp.item.area.y + stamp.item.area.height)
          then stamp.item.changed (floor.filled x y) else floor.filled x y) := by
  refine ⟨⟨?_, ?_⟩, ?_⟩
  · rintro ⟨rejects, _, _⟩
    constructor
    · intro acceptable
      by_contra startsBefore
      have refused := floor.refuses_iff.mp (rejects fun lies => startsBefore lies.1)
      exact Stamp.overreaches_iff.mp refused.1 acceptable
    · exact fun rejected => (floor.refuses_iff.mp (rejects fun lies => rejected lies.2)).2
  · rintro ⟨starts, writable⟩
    refine ⟨?_, ?_, ?_⟩
    · intro outside
      have rejected : ¬ stamp.item.IsAcceptable floor.width floor.height :=
        fun acceptable => outside ⟨starts acceptable, acceptable⟩
      exact floor.refuses_iff.mpr ⟨Stamp.overreaches_iff.mpr rejected, writable rejected⟩
    · exact fun lies => floor.exists_applyStamp_iff.mpr lies.2
    · intro next applied
      have acceptable := floor.exists_applyStamp_iff.mp ⟨next, applied⟩
      rw [floor.applyStamp_of_acceptable acceptable] at applied
      cases applied
      exact ⟨floor.width_stamped _, floor.height_stamped _, fun x y changed =>
        floor.covers_of_filled_stamped_ne (acceptable.isNonneg (starts acceptable)) changed⟩
  · intro acceptable
    exact ⟨_, floor.applyStamp_of_acceptable acceptable, floor.width_stamped _,
      floor.height_stamped _, fun x y column row => floor.filled_stamped_eq stamp.item column row⟩

/-- A stamp of one cell, two columns before the grid, fills a cell of the grid. -/
theorem not_keepsWithin_before :
    ¬ (blank 3 1).KeepsWithin ⟨⟨.fill, ⟨-2, 0, 1, 1⟩⟩, some 2, some 1⟩ ∧
      Exists fun next =>
        (blank 3 1).applyStamp (⟨⟨.fill, ⟨-2, 0, 1, 1⟩⟩, some 2, some 1⟩ : Placed Stamp) = .ok next ∧
          next.rows = [[false, true, false]] ∧
          ¬ (⟨.fill, ⟨-2, 0, 1, 1⟩⟩ : Stamp).Covers 1 0 := by
  have applied : (blank 3 1).applyStamp (⟨⟨.fill, ⟨-2, 0, 1, 1⟩⟩, some 2, some 1⟩ : Placed Stamp) =
      .ok ((blank 3 1).stamped ⟨.fill, ⟨-2, 0, 1, 1⟩⟩) := rfl
  refine ⟨?_, _, applied, by decide, by decide⟩
  rintro ⟨rejects, _, _⟩
  rcases rejects fun lies => absurd lies.1.1 (by decide) with ⟨_, reason, _, faulty⟩
  cases applied.symm.trans faulty

end Mask
end BattleMap
