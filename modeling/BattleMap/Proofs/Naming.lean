import BattleMap.Furnishing
import BattleMap.Proofs.Outcome

namespace BattleMap

/-!
# Which statements can be named

A fault that is blamed on a statement names the statement by its text, and the text is
put together before there is a fault.  A number with too many digits has no text, so a
statement with such a number cannot be named: whatever is wrong with it, the outcome is
that a number is too long.  Only a circle around a point can fail to have a text in
another way.

A number that was read can be written: what has few enough digits to be taken for an
integer is short enough to be named.
-/

namespace Decimal

theorem tenTo_le_tenTo {m n : Nat} (less : m ≤ n) : tenTo m ≤ tenTo n :=
  Nat.pow_le_pow_right (by decide) less

/-- Digits denote a number below the power of ten with as many zeros. -/
theorem value_lt {text : List Char} (digits : forall c, c ∈ text -> c.isDigit = true) :
    value text < tenTo text.length := by
  unfold value
  induction text with
  | nil => exact Nat.one_pos
  | cons c rest later =>
      have ⟨isDigit, behind⟩ := List.forall_mem_cons.mp digits
      have single : c.toNat - '0'.toNat ≤ 9 := by
        have range : 48 ≤ c.toNat ∧ c.toNat ≤ 57 := Char.isDigit_iff_toNat.mp isDigit
        exact Nat.sub_le_sub_right range.2 48
      have small := later behind
      rw [Nat.ofDigitChars_cons, Nat.ofDigitChars_eq_ofDigitChars_zero, Nat.mul_zero, Nat.zero_add]
      calc 10 ^ rest.length * (c.toNat - '0'.toNat) + Nat.ofDigitChars 10 rest 0
          < 10 ^ rest.length * (c.toNat - '0'.toNat) + 10 ^ rest.length :=
            Nat.add_lt_add_left small _
        _ = 10 ^ rest.length * (c.toNat - '0'.toNat + 1) := rfl
        _ ≤ 10 ^ rest.length * 10 := Nat.mul_le_mul_left _ (Nat.succ_le_succ single)

/-- A number that has few enough digits to be read can be written. -/
theorem isWritable_value {text : List Char} (digits : forall c, c ∈ text -> c.isDigit = true)
    (few : text.length ≤ mostDigits) : isWritable (value text) = true := by
  rw [isWritable_iff, Int.natAbs_natCast]
  unfold writtenLimit
  exact Nat.lt_of_lt_of_le (value_lt digits) (tenTo_le_tenTo few)

end Decimal

/-- A text that is there under a condition, and otherwise has a number that is too long. -/
inductive WrittenIf : Prop -> Except Fault String -> Prop where
  | ok {condition : Prop} (holds : condition) (text : String) : WrittenIf condition (.ok text)
  | error {condition : Prop} (fails : ¬ condition) : WrittenIf condition (.error .tooManyDigits)

namespace WrittenIf

variable {p q : Prop} {text : Except Fault String}

theorem exists_eq_ok_iff (written : WrittenIf p text) : (Exists fun s => text = .ok s) ↔ p := by
  cases written with
  | ok holds s => exact ⟨fun _ => holds, fun _ => ⟨s, rfl⟩⟩
  | error fails => exact ⟨nofun, fun holds => absurd holds fails⟩

theorem exists_eq_ok (written : WrittenIf p text) (holds : p) : Exists fun s => text = .ok s :=
  written.exists_eq_ok_iff.mpr holds

theorem eq_error (written : WrittenIf p text) (fails : ¬ p) : text = .error .tooManyDigits := by
  cases written with
  | ok holds s => exact absurd holds fails
  | error _ => rfl

theorem congr (written : WrittenIf p text) (same : p ↔ q) : WrittenIf q text := by
  cases written with
  | ok holds s => exact .ok (same.mp holds) s
  | error fails => exact .error (mt same.mpr fails)

/-- A text that goes on is there if both of its parts are. -/
theorem bind {next : String -> Except Fault String} (here : WrittenIf p text)
    (behind : forall s, WrittenIf q (next s)) : WrittenIf (p ∧ q) (text >>= next) := by
  cases here with
  | error fails => exact .error fun both => fails both.1
  | ok holds s => exact (behind s).congr ⟨fun others => ⟨holds, others⟩, And.right⟩

/-- What is put around a text is always there. -/
theorem bind_pure (written : WrittenIf p text) (around : String -> String) :
    WrittenIf p (text >>= fun s => pure (around s)) := by
  cases written with
  | error fails => exact .error fails
  | ok holds s => exact .ok holds _

end WrittenIf

/-- The outcome is the complaint about a statement that is out of range. -/
def Placed.IsRefusal (placed : Placed β) (text : Except Fault String) (outcome : Except Fault γ) :
    Prop :=
  Exists fun subject => Exists fun reason =>
    text = .ok subject ∧ outcome = .error (placed.outOfRange subject reason)

namespace WrittenIf

variable {p : Prop} {text : Except Fault String} {placed : Placed β} {reason : String}

/-- A statement that is rejected is refused if it can be named. -/
theorem isRefusal_reject_iff (written : WrittenIf p text) :
    placed.IsRefusal text (placed.reject text reason : Except Fault γ) ↔ p := by
  cases written with
  | ok holds subject => exact ⟨fun _ => holds, fun _ => ⟨subject, reason, rfl, rfl⟩⟩
  | error fails =>
      constructor
      · rintro ⟨_, _, impossible, _⟩
        cases impossible
      · exact fun holds => absurd holds fails

/-- If it cannot be named, the outcome is that a number is too long. -/
theorem reject_eq_tooManyDigits_iff (written : WrittenIf p text) :
    (placed.reject text reason : Except Fault γ) = .error .tooManyDigits ↔ ¬ p := by
  cases written with
  | ok holds subject => exact ⟨nofun, fun fails => absurd holds fails⟩
  | error fails => exact ⟨fun _ => fails, fun _ => rfl⟩

end WrittenIf

namespace Placed

variable {placed : Placed β} {text : Except Fault String} {result : γ}

@[simp] theorem reject_ne_ok {reason : String} : placed.reject text reason ≠ .ok result :=
  Outcome.bind_error_ne_ok

@[simp] theorem bind_reject_ne_ok {reason : Except Fault String} :
    (reason >>= fun words => placed.reject text words) ≠ .ok result := by
  intro impossible
  rcases Outcome.bind_eq_ok.mp impossible with ⟨_, _, rejected⟩
  exact reject_ne_ok rejected

end Placed

/-- What becomes of a statement that is either accepted or rejected. -/
def Placed.Judged (placed : Placed β) (text : Except Fault String) (outcome : Except Fault γ) :
    Prop :=
  (Exists fun result => outcome = .ok result) ∨
    Exists fun reason => outcome = placed.reject text reason

namespace WrittenIf

variable {p : Prop} {text : Except Fault String} {placed : Placed β} {outcome : Except Fault γ}

/-- A statement is refused if it is not accepted and can be named. -/
theorem isRefusal_iff (written : WrittenIf p text) (judged : placed.Judged text outcome) :
    placed.IsRefusal text outcome ↔ (¬ Exists fun result => outcome = .ok result) ∧ p := by
  rcases judged with ⟨result, rfl⟩ | ⟨reason, rfl⟩
  · constructor
    · rintro ⟨_, _, _, impossible⟩
      cases impossible
    · exact fun refused => absurd ⟨result, rfl⟩ refused.1
  · rw [written.isRefusal_reject_iff]
    exact ⟨fun named => ⟨fun ⟨_, accepted⟩ => Placed.reject_ne_ok accepted, named⟩, And.right⟩

/-- If it is not accepted and cannot be named, a number is too long. -/
theorem eq_tooManyDigits_iff (written : WrittenIf p text) (judged : placed.Judged text outcome) :
    outcome = .error .tooManyDigits ↔ (¬ Exists fun result => outcome = .ok result) ∧ ¬ p := by
  rcases judged with ⟨result, rfl⟩ | ⟨reason, rfl⟩
  · exact ⟨nofun, fun stopped => absurd ⟨result, rfl⟩ stopped.1⟩
  · rw [written.reject_eq_tooManyDigits_iff]
    exact ⟨fun tooLong => ⟨fun ⟨_, accepted⟩ => Placed.reject_ne_ok accepted, tooLong⟩, And.right⟩

end WrittenIf

namespace Number

/-- The number can be written with all its digits. -/
def IsWritable : Number -> Prop
  | .whole n => Decimal.isWritable n = true
  | .fraction _ => True

instance : DecidablePred Number.IsWritable
  | .whole n => inferInstanceAs (Decidable (Decimal.isWritable n = true))
  | .fraction _ => inferInstanceAs (Decidable True)

theorem writtenIf_exactText (a : Number) : WrittenIf a.IsWritable a.exactText := by
  cases a with
  | fraction x => exact .ok trivial _
  | whole n =>
      by_cases writable : Decimal.isWritable n = true
      · rw [exactText, if_pos writable]
        exact .ok writable _
      · rw [exactText, if_neg writable]
        exact .error writable

end Number

theorem writtenIf_pairText (x y : Int) :
    WrittenIf ((Number.whole x).IsWritable ∧ (Number.whole y).IsWritable) (pairText x y) :=
  (Number.writtenIf_exactText _).bind fun _ => (Number.writtenIf_exactText _).bind_pure _

/-- All numbers of a stamp can be written. -/
def Stamp.IsWritable (stamp : Stamp) : Prop :=
  ((Number.whole stamp.area.x).IsWritable ∧ (Number.whole stamp.area.y).IsWritable) ∧
    (Number.whole stamp.area.width).IsWritable ∧ (Number.whole stamp.area.height).IsWritable

instance : DecidablePred Stamp.IsWritable :=
  fun _ => inferInstanceAs (Decidable (_ ∧ _))

theorem Stamp.writtenIf_text (stamp : Stamp) : WrittenIf stamp.IsWritable stamp.text :=
  (writtenIf_pairText _ _).bind fun _ =>
    (Number.writtenIf_exactText _).bind fun _ => (Number.writtenIf_exactText _).bind_pure _

/-- All numbers of a line can be written. -/
def SideLine.IsWritable (line : SideLine) : Prop :=
  ((Number.whole line.x).IsWritable ∧ (Number.whole line.y).IsWritable) ∧
    (Number.whole line.length).IsWritable

theorem SideLine.writtenIf_text (line : SideLine) : WrittenIf line.IsWritable line.text :=
  (writtenIf_pairText _ _).bind fun _ => (Number.writtenIf_exactText _).bind_pure _

theorem GridSize.writtenIf_text (size : GridSize) :
    WrittenIf ((Number.whole size.width).IsWritable ∧ (Number.whole size.height).IsWritable)
      size.text :=
  (writtenIf_pairText _ _).bind_pure _

end BattleMap
