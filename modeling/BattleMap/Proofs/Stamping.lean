import Mathlib.Algebra.Group.Nat.Even
import BattleMap.Survey
import BattleMap.Proofs.Reading
import BattleMap.Proofs.Winding

namespace BattleMap

/-!
# Which cells the stamps of a document fill

What has become of a cell depends only on the stamps that cover it, in their
order.  The last filling stamp among them wipes out what came before it, and
every later one turns the cell over once more; without a filling stamp the count
starts at an empty cell.
-/

namespace Stamp

/-- The cells of a stamp on the plane. -/
def Covers (stamp : Stamp) (x y : Nat) : Prop :=
  (stamp.area.x ≤ x ∧ (x : Int) < stamp.area.x + stamp.area.width) ∧
    stamp.area.y ≤ y ∧ (y : Int) < stamp.area.y + stamp.area.height

instance (stamp : Stamp) (x y : Nat) : Decidable (stamp.Covers x y) :=
  inferInstanceAs (Decidable (_ ∧ _))

/-- The stamps, all of which cover a cell, leave it filled: either an even number
of turning ones comes behind the last filling one, or there are only turning
ones and their number is odd. -/
def LeaveFilled (stamps : List Stamp) : Prop :=
  (Exists fun before => Exists fun last => Exists fun after =>
    stamps = before ++ last :: after ∧ last.mode = .fill ∧
      (forall stamp, stamp ∈ after -> stamp.mode = .turn) ∧ Even after.length) ∨
  ((forall stamp, stamp ∈ stamps -> stamp.mode = .turn) ∧ Odd stamps.length)

theorem changed_of_fill {stamp : Stamp} (fills : stamp.mode = .fill) (wasFilled : Bool) :
    stamp.changed wasFilled = true := by
  unfold changed
  rw [fills]

theorem changed_of_turn {stamp : Stamp} (turns : stamp.mode = .turn) (wasFilled : Bool) :
    stamp.changed wasFilled = !wasFilled := by
  unfold changed
  rw [turns]

/-- Turning stamps turn the cell over as often as there are some. -/
theorem foldl_changed_of_turns (stamps : List Stamp)
    (turns : forall stamp, stamp ∈ stamps -> stamp.mode = .turn) (wasFilled : Bool) :
    stamps.foldl (fun filled stamp => stamp.changed filled) wasFilled =
      (wasFilled != decide (Odd stamps.length)) := by
  induction stamps generalizing wasFilled with
  | nil => cases wasFilled <;> rfl
  | cons stamp rest later =>
      rw [List.foldl_cons, changed_of_turn (turns stamp List.mem_cons_self),
        later fun other member => turns other (List.mem_cons_of_mem _ member), List.length_cons]
      by_cases odd : Odd rest.length
      · have even : ¬ Odd (rest.length + 1) := Nat.not_odd_iff_even.mpr odd.add_one
        cases wasFilled <;> simp [odd, even]
      · have next : Odd (rest.length + 1) := (Nat.not_odd_iff_even.mp odd).add_one
        cases wasFilled <;> simp [odd, next]

/-- A filling stamp wipes out what came before it. -/
theorem foldl_changed_of_fill {stamps before after : List Stamp} {last : Stamp}
    (split : stamps = before ++ last :: after) (fills : last.mode = .fill)
    (turns : forall stamp, stamp ∈ after -> stamp.mode = .turn) (wasFilled : Bool) :
    stamps.foldl (fun filled stamp => stamp.changed filled) wasFilled =
      decide (Even after.length) := by
  rw [split, List.foldl_append, List.foldl_cons, changed_of_fill fills,
    foldl_changed_of_turns after turns]
  by_cases odd : Odd after.length
  · have even : ¬ Even after.length := Nat.not_even_iff_odd.mpr odd
    simp [odd, even]
  · have even := Nat.not_odd_iff_even.mp odd
    simp [odd, even]

theorem turns_or_exists_last_fill (stamps : List Stamp) :
    (forall stamp, stamp ∈ stamps -> stamp.mode = .turn) ∨
      Exists fun before => Exists fun last => Exists fun after =>
        stamps = before ++ last :: after ∧ last.mode = .fill ∧
          forall stamp, stamp ∈ after -> stamp.mode = .turn := by
  induction stamps with
  | nil => exact Or.inl fun stamp member => by cases member
  | cons first rest later =>
      rcases later with turns | ⟨before, last, after, split, fills, turns⟩
      · cases mode : first.mode with
        | fill => exact Or.inr ⟨[], first, rest, rfl, mode, turns⟩
        | turn =>
            apply Or.inl
            intro stamp member
            rcases List.mem_cons.mp member with same | member
            · rw [same]
              exact mode
            · exact turns stamp member
      · exact Or.inr ⟨first :: before, last, after, by rw [split, List.cons_append], fills, turns⟩

/-- Stamps one after the other leave an empty cell filled as `LeaveFilled` says. -/
theorem foldl_changed_eq_true_iff (stamps : List Stamp) :
    stamps.foldl (fun filled stamp => stamp.changed filled) false = true ↔ LeaveFilled stamps := by
  constructor
  · intro filled
    rcases turns_or_exists_last_fill stamps with turns | ⟨before, last, after, split, fills, turns⟩
    · rw [foldl_changed_of_turns stamps turns] at filled
      exact Or.inr ⟨turns, by simpa using filled⟩
    · rw [foldl_changed_of_fill split fills turns] at filled
      exact Or.inl ⟨before, last, after, split, fills, turns, of_decide_eq_true filled⟩
  · rintro (⟨before, last, after, split, fills, turns, even⟩ | ⟨turns, odd⟩)
    · rw [foldl_changed_of_fill split fills turns]
      exact decide_eq_true even
    · rw [foldl_changed_of_turns stamps turns]
      simpa using odd

/-- A stamp that does not start before the grid covers the same cells of the grid
as of the plane. -/
theorem coversCell_eq_decide {stamp : Stamp} (nonneg : stamp.IsNonneg) {width height x y : Nat}
    (column : x < width) (row : y < height) :
    stamp.coversCell width height x y = decide (stamp.Covers x y) := by
  rcases nonneg with ⟨starts, size⟩
  unfold coversCell columns rows
  rw [Axis.contains_span_of_nonneg column starts.1 (by omega),
    Axis.contains_span_of_nonneg row starts.2 (by omega), ← Bool.decide_and]
  rfl

end Stamp

/-- The cells that a document fills, by its stamps alone. -/
def Document.Fills (document : Document) (x y : Nat) : Prop :=
  Stamp.LeaveFilled
    ((document.stamps.map (·.item)).filter fun stamp => stamp.Covers x y)

namespace Mask

variable {size : GridSize} {floor : Mask}

private theorem size_updateArea (mask : Mask) (columns rows : Axis.Span) (change : Bool -> Bool) :
    (mask.updateArea columns rows change).width = mask.width ∧
      (mask.updateArea columns rows change).height = mask.height := by
  unfold updateArea
  induction rows.places generalizing mask with
  | nil => exact ⟨rfl, rfl⟩
  | cons y rest later =>
      have onward := later (mask.updateRow columns.places y change)
      rw [width_updateRow, height_updateRow] at onward
      exact onward

theorem width_stamped (mask : Mask) (stamp : Stamp) : (mask.stamped stamp).width = mask.width :=
  (size_updateArea mask _ _ _).1

theorem height_stamped (mask : Mask) (stamp : Stamp) : (mask.stamped stamp).height = mask.height :=
  (size_updateArea mask _ _ _).2

/-- What a stamp that does not start before the grid makes of a cell. -/
theorem filled_stamped_of_isNonneg (mask : Mask) {stamp : Stamp} (nonneg : stamp.IsNonneg) {x y : Nat}
    (column : x < mask.width) (row : y < mask.height) :
    (mask.stamped stamp).filled x y =
      if stamp.Covers x y then stamp.changed (mask.filled x y) else mask.filled x y := by
  rw [filled_stamped mask stamp column row, Stamp.coversCell_eq_decide nonneg column row]
  simp only [decide_eq_true_eq]

theorem forGrid_spec (laidOut : forGrid size = .ok floor) :
    (0 < size.width ∧ 0 < size.height) ∧ floor = blank size.width.toNat size.height.toNat := by
  unfold forGrid at laidOut
  split at laidOut
  · rename_i positive
    rcases Outcome.bind_eq_ok.mp laidOut with ⟨sides, fits, done⟩
    cases done
    have sameSides := Memory.eq_of_checkGrid_eq_ok fits
    rw [sameSides]
    exact ⟨GridSize.isPositive_iff.mp positive, rfl⟩
  · exact absurd laidOut Outcome.bind_error_ne_ok

/-- The floor plan belongs to a grid of the given size. -/
def HasSize (size : GridSize) (floor : Mask) : Prop :=
  floor.width = size.width.toNat ∧ floor.height = size.height.toNat

theorem HasSize.stamped (sized : floor.HasSize size) (stamp : Stamp) :
    (floor.stamped stamp).HasSize size :=
  ⟨(floor.width_stamped stamp).trans sized.1, (floor.height_stamped stamp).trans sized.2⟩

theorem hasSize_of_forGrid (laidOut : forGrid size = .ok floor) : floor.HasSize size := by
  rcases forGrid_spec laidOut with ⟨_, rfl⟩
  exact ⟨rfl, rfl⟩

end Mask

end BattleMap
