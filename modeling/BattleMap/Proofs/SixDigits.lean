import BattleMap.Proofs.BinaryRounding
import BattleMap.Proofs.ReadingBack

namespace BattleMap

/-!
# Six significant digits

A drawing shows a whole number as the nearest binary64 number, rounded once more to six
decimal digits.  A number that has no more than six digits in front of its zeros passes
both, for the first rounding is off by far less than half a unit of the sixth digit.
Every other number is shown as a different one.
-/

namespace Decimal

/-! ## Width -/

theorem width_le_iff {n k : Nat} (positive : 0 < k) : width n ≤ k ↔ n < 10 ^ k := by
  rw [← length_digits, digits_eq_toDigits]
  exact Nat.length_toDigits_le_iff (by decide) positive

theorem width_pos (n : Nat) : 0 < width n := by
  rw [← length_digits]
  exact List.length_pos_iff.mpr (digits_ne_nil n)

theorem lt_pow_width (n : Nat) : n < 10 ^ width n :=
  (width_le_iff (width_pos n)).mp (Nat.le_refl _)

theorem pow_le_of_lt_width {n k : Nat} (positive : 0 < k) (less : k < width n) : 10 ^ k ≤ n :=
  Nat.not_lt.mp fun small => Nat.not_le.mpr less ((width_le_iff positive).mpr small)

theorem width_eq {n k : Nat} (positive : 0 < k) (least : 10 ^ k ≤ n) (most : n < 10 ^ (k + 1)) :
    width n = k + 1 := by
  have upper := (width_le_iff (Nat.succ_pos k)).mpr most
  have lower := (width_le_iff positive).not.mpr (Nat.not_lt.mpr least)
  omega

/-! ## Rounding to six digits -/

/-- A whole number with six significant digits. -/
def sixDigits (n : Nat) : Nat :=
  roundQuotient n (10 ^ (width n - 6)) * 10 ^ (width n - 6)

theorem sixDigits_of_lt {n : Nat} (small : n < 10 ^ 6) : sixDigits n = n := by
  unfold sixDigits
  rw [Nat.sub_eq_zero_of_le ((width_le_iff (by decide)).mpr small), Nat.pow_zero,
    roundQuotient_one, Nat.mul_one]

/-- At most six digits stand in front of the zeros of the number. -/
def HasSixDigits (n : Nat) : Prop :=
  Exists fun leading => Exists fun zeros => leading < 10 ^ 6 ∧ n = leading * 10 ^ zeros

theorem lt_sixth (n : Nat) : n < 10 ^ 6 * 10 ^ (width n - 6) := by
  rw [← Nat.pow_add]
  exact Nat.lt_of_lt_of_le (lt_pow_width n) (Nat.pow_le_pow_right (by decide) (by omega))

theorem hasSixDigits_sixDigits (n : Nat) : HasSixDigits (sixDigits n) := by
  have whole := (Nat.div_lt_iff_lt_mul (Nat.pow_pos (by decide))).mpr (lt_sixth n)
  have most := Nat.le_trans (roundQuotient_between n _).2 whole
  rcases Nat.eq_or_lt_of_le most with carry | within
  · refine ⟨10 ^ 5, width n - 6 + 1, by decide, ?_⟩
    unfold sixDigits
    rw [carry, Nat.pow_succ' (m := 10) (n := width n - 6), ← Nat.mul_assoc]
    rfl
  · exact ⟨_, _, within, rfl⟩

/-- What is as near as binary64 numbers are to a number of six digits has the same six
digits. -/
theorem sixDigits_eq_of_near {n near : Nat} (short : HasSixDigits n)
    (above : 2 ^ 53 * near ≤ 2 ^ 53 * n + n) (below : 2 ^ 53 * n ≤ 2 ^ 53 * near + n) :
    sixDigits near = n := by
  rcases Nat.lt_or_ge near (10 ^ 6) with small | large
  · rw [sixDigits_of_lt small]
    omega
  · rcases short with ⟨leading, zeros, bound, rfl⟩
    have places : 6 < width near := Nat.not_le.mp fun few =>
      Nat.not_lt.mpr large ((width_le_iff (by decide)).mp few)
    have least := pow_le_of_lt_width (k := width near - 6 + 5) (n := near) (by omega) (by omega)
    have most := lt_sixth near
    -- The unit of the sixth digit of `near` divides the number, or `near` would be too large.
    have enough : width near - 6 ≤ zeros := by
      refine Nat.le_of_not_lt fun few => ?_
      have room : 10 ^ 6 * 10 ^ zeros ≤ near := by
        rw [← Nat.pow_add]
        exact Nat.le_trans (Nat.pow_le_pow_right (by decide) (by omega)) least
      have step := Nat.mul_le_mul_right (10 ^ zeros) (show leading ≤ 999999 by omega)
      have unit : 0 < 10 ^ zeros := Nat.pow_pos (by decide)
      omega
    have split : leading * 10 ^ zeros =
        10 ^ (width near - 6) * (leading * 10 ^ (zeros - (width near - 6))) := by
      rw [Nat.mul_left_comm, ← Nat.pow_add, Nat.add_sub_of_le enough]
    rw [split] at above below ⊢
    have nearest : roundQuotient near (10 ^ (width near - 6)) =
        leading * 10 ^ (zeros - (width near - 6)) :=
      roundQuotient_eq_of_near (by omega) (by omega)
    unfold sixDigits
    rw [nearest, Nat.mul_comm]

/-! ## The digits that are chosen -/

theorem leadingExponent_one {n : Nat} (positive : 0 < n) :
    leadingExponent n 1 = width n - 1 := by
  unfold leadingExponent
  rw [if_pos (show 1 ≤ n from positive), Nat.div_one]

theorem significant_six {n : Nat} (positive : 0 < n) :
    significant 6 n 1 =
      ⟨roundQuotient (n * 10 ^ (6 - width n)) (10 ^ (width n - 6)), width n - 6⟩ := by
  have scale : (width n - 1 + 1 - 6 : Int) = width n - 6 := by omega
  have below : (-(width n - 6 : Int)).toNat = 6 - width n := by omega
  have above : (width n - 6 : Int).toNat = width n - 6 := by omega
  unfold significant
  rw [leadingExponent_one positive]
  change Scaled.mk (roundQuotient (n * 10 ^ (-(width n - 1 + 1 - 6 : Int)).toNat)
    (1 * 10 ^ (width n - 1 + 1 - 6 : Int).toNat)) (width n - 1 + 1 - 6) = _
  rw [scale, below, above, Nat.one_mul]

theorem significant_spec {n : Nat} (positive : 0 < n) :
    0 < (significant 6 n 1).coefficient ∧
      ((significant 6 n 1).coefficient : ℚ) * 10 ^ (significant 6 n 1).scale = sixDigits n := by
  rw [significant_six positive]
  dsimp only
  rcases Nat.lt_or_ge (width n) 6 with few | many
  · have small := Nat.lt_trans (lt_pow_width n) (Nat.pow_lt_pow_right (by decide) few)
    have scale : (width n - 6 : Int) = -(6 - width n : Nat) := by omega
    rw [Nat.sub_eq_zero_of_le (Nat.le_of_lt few), Nat.pow_zero, roundQuotient_one,
      sixDigits_of_lt small, scale, zpow_neg, zpow_natCast]
    refine ⟨Nat.mul_pos positive (Nat.pow_pos (by decide)), ?_⟩
    push_cast
    exact mul_inv_cancel_right₀ (pow_ne_zero _ (by decide)) _
  · have scale : (width n - 6 : Int) = (width n - 6 : Nat) := by omega
    rw [Nat.sub_eq_zero_of_le many, Nat.pow_zero, Nat.mul_one, scale, zpow_natCast]
    have least := pow_le_of_lt_width (k := width n - 1) (n := n) (by omega) (by omega)
    have places : 10 ^ (width n - 6) ≤ n :=
      Nat.le_trans (Nat.pow_le_pow_right (by decide) (by omega)) least
    refine ⟨Nat.lt_of_lt_of_le (Nat.div_pos places (Nat.pow_pos (by decide)))
      (roundQuotient_between n _).1, ?_⟩
    unfold sixDigits
    push_cast
    rfl

theorem sixDigits_pos {n : Nat} (positive : 0 < n) : 0 < sixDigits n := by
  have spec := significant_spec positive
  refine Nat.pos_of_ne_zero fun zero => ?_
  rw [zero, Nat.cast_zero, mul_eq_zero, Nat.cast_eq_zero] at spec
  rcases spec.2 with nothing | nothing
  · exact Nat.ne_of_gt spec.1 nothing
  · exact zpow_ne_zero _ (by decide) nothing

/-! ## The text of a whole number -/

/-- The text of a whole number with six significant digits. -/
def briefDigits (n : Nat) : List Char :=
  if n = 0 then Layout.brief.zero else Layout.brief.write (significant 6 n 1)

theorem briefDigits_of_pos {n : Nat} (positive : 0 < n) :
    briefDigits n = Layout.brief.write (significant 6 n 1) :=
  if_neg (Nat.ne_of_gt positive)

theorem exactMagnitude?_briefDigits (n : Nat) :
    exactMagnitude? (briefDigits n) = some (sixDigits n : ℚ) := by
  rcases Nat.eq_zero_or_pos n with rfl | positive
  · exact exactMagnitude?_digits (List.cons_ne_nil '0' []) (areDigits_zeros 1)
  · rw [briefDigits_of_pos positive]
    refine (exactMagnitude?_write rfl (significant_spec positive).1).trans ?_
    rw [(significant_spec positive).2]

/-! ## Equal digits, equal texts -/

theorem digits_mul_ten {n : Nat} (positive : 0 < n) : digits (n * 10) = digits n ++ ['0'] := by
  rw [digits_eq_toDigits, digits_eq_toDigits, Nat.toDigits_of_base_le (by decide) (by omega),
    Nat.mul_div_cancel n (by decide), Nat.mul_mod_left]
  rfl

theorem withoutTrailingZeros_append_zero (text : List Char) :
    withoutTrailingZeros (text ++ ['0']) = withoutTrailingZeros text := by
  unfold withoutTrailingZeros
  rw [List.reverse_append]
  exact congrArg List.reverse (List.dropWhile_cons_of_pos rfl)

/-- A zero at the end of the digits counts as much as one in the scale. -/
theorem write_mul_ten (form : Layout) {coefficient : Nat} (positive : 0 < coefficient)
    (scale : Int) : form.write ⟨coefficient * 10, scale⟩ = form.write ⟨coefficient, scale + 1⟩ := by
  have place : (((digits coefficient ++ ['0']).length - 1 : Int) + scale) =
      (digits coefficient).length - 1 + (scale + 1) := by
    rw [List.length_append, List.length_singleton]
    omega
  unfold Layout.write
  dsimp only
  rw [digits_mul_ten positive, withoutTrailingZeros_append_zero, place]

theorem write_mul_tenTo (form : Layout) {coefficient : Nat} (positive : 0 < coefficient)
    (scale : Int) (zeros : Nat) :
    form.write ⟨coefficient * 10 ^ zeros, scale⟩ = form.write ⟨coefficient, scale + zeros⟩ := by
  induction zeros generalizing scale with
  | zero => rw [Nat.pow_zero, Nat.mul_one, Int.natCast_zero, Int.add_zero]
  | succ zeros fewer =>
      rw [Nat.pow_succ, ← Nat.mul_assoc,
        write_mul_ten form (Nat.mul_pos positive (Nat.pow_pos (by decide))), fewer,
        show scale + 1 + (zeros : Int) = scale + (zeros + 1 : Nat) by omega]

theorem significant_of_le {n : Nat} (positive : 0 < n) (many : 6 ≤ width n) :
    significant 6 n 1 = ⟨roundQuotient n (10 ^ (width n - 6)), (width n - 6 : Nat)⟩ := by
  have scale : (width n - 6 : Int) = (width n - 6 : Nat) := by omega
  rw [significant_six positive, Nat.sub_eq_zero_of_le many, Nat.pow_zero, Nat.mul_one, scale]

theorem sixDigits_sixDigits (n : Nat) : sixDigits (sixDigits n) = sixDigits n :=
  sixDigits_eq_of_near (hasSixDigits_sixDigits n) (Nat.le_add_right _ _) (Nat.le_add_right _ _)

/-- Rounding to six digits does not make a number shorter. -/
theorem width_le_width_sixDigits {n : Nat} (many : 6 ≤ width n) : width n ≤ width (sixDigits n) := by
  have least := pow_le_of_lt_width (k := width n - 1) (n := n) (by omega) (by omega)
  have split : 10 ^ (width n - 1) = 10 ^ 5 * 10 ^ (width n - 6) := by
    rw [← Nat.pow_add, show 5 + (width n - 6) = width n - 1 by omega]
  rw [split, ← Nat.le_div_iff_mul_le (Nat.pow_pos (by decide))] at least
  have kept : 10 ^ (width n - 1) ≤ sixDigits n := by
    rw [split]
    exact Nat.mul_le_mul_right _ (Nat.le_trans least (roundQuotient_between n _).1)
  have wider := (width_le_iff (k := width n - 1) (by omega)).not.mpr (Nat.not_lt.mpr kept)
  omega

/-- The text depends on nothing but the six digits. -/
theorem briefDigits_sixDigits (n : Nat) : briefDigits (sixDigits n) = briefDigits n := by
  rcases Nat.lt_or_ge n (10 ^ 6) with small | large
  · rw [sixDigits_of_lt small]
  · have positive : 0 < n := Nat.lt_of_lt_of_le (by decide) large
    have many : 6 ≤ width n := Nat.le_of_lt (Nat.not_le.mp fun few =>
      Nat.not_lt.mpr large ((width_le_iff (by decide)).mp few))
    have wider := width_le_width_sixDigits many
    have same := sixDigits_sixDigits n
    generalize result : sixDigits n = rounded at same wider ⊢
    have coefficient : roundQuotient n (10 ^ (width n - 6)) =
        roundQuotient rounded (10 ^ (width rounded - 6)) * 10 ^ (width rounded - width n) := by
      apply Nat.mul_right_cancel (Nat.pow_pos (n := width n - 6) (show 0 < 10 by decide))
      rw [Nat.mul_assoc, ← Nat.pow_add, show width rounded - width n + (width n - 6) =
        width rounded - 6 by omega]
      exact result.trans same.symm
    have chosen := (significant_spec positive).1
    rw [significant_of_le positive many, coefficient] at chosen
    have leading := Nat.pos_of_mul_pos_right chosen
    have roundedPositive : 0 < rounded := by
      rw [← same]
      exact Nat.mul_pos leading (Nat.pow_pos (by decide))
    rw [briefDigits_of_pos roundedPositive, briefDigits_of_pos positive,
      significant_of_le roundedPositive (by omega), significant_of_le positive many, coefficient,
      write_mul_tenTo _ leading, show ((width n - 6 : Nat) : Int) +
        (width rounded - width n : Nat) = (width rounded - 6 : Nat) by omega]

end Decimal

/-! ## Texts of whole numbers -/

namespace Binary64

theorem natAbs_signed (negative : Bool) (n : Nat) : (signed negative n).natAbs = n := by
  cases negative with
  | false => exact Int.natAbs_natCast n
  | true => exact (Int.natAbs_neg _).trans (Int.natAbs_natCast n)

theorem exactValue?_withSign {text : List Char} {n : Nat} (negative : Bool)
    (read : Decimal.exactMagnitude? text = some (n : ℚ)) :
    Decimal.exactValue? (withSign negative text).toList = some ((signed negative n : Int) : ℚ) := by
  unfold withSign signed
  rw [String.toList_ofList]
  cases negative with
  | false => exact Decimal.exactValue?_unsigned read
  | true =>
      refine (Decimal.exactValue?_minus read).trans ?_
      rw [if_pos rfl, Int.cast_neg, Int.cast_natCast]

/-- A value that is a whole number is shown with six of its digits. -/
theorem briefText_whole (negative : Bool) (mantissa exponent : Nat) :
    briefText (.finite negative mantissa exponent) =
      withSign negative (Decimal.briefDigits (mantissa * 2 ^ exponent)) := by
  have quotient : magnitude mantissa exponent = (mantissa * 2 ^ exponent, 1) := by
    unfold magnitude
    rw [Int.toNat_natCast, show (-(exponent : Int)).toNat = 0 by omega]
    rfl
  unfold briefText text
  dsimp only
  rw [quotient]
  rcases Nat.eq_zero_or_pos mantissa with rfl | positive
  · rw [Nat.zero_mul]
    rfl
  · rw [if_neg (Nat.ne_of_gt positive), Decimal.briefDigits_of_pos
      (Nat.mul_pos positive (Nat.two_pow_pos exponent))]

end Binary64

namespace Number

/-- The whole number that a drawing shows in place of a whole number. -/
def shown (n : Int) : Int :=
  Binary64.signed (n < 0) (Decimal.sixDigits (Binary64.nearestWhole n.natAbs))

theorem natAbs_shown (n : Int) :
    (shown n).natAbs = Decimal.sixDigits (Binary64.nearestWhole n.natAbs) :=
  Binary64.natAbs_signed _ _

theorem shown_natCast {n : Nat} (small : n ≤ 2 ^ 53) : shown n = Decimal.sixDigits n := by
  unfold shown
  rw [Int.natAbs_natCast, Binary64.nearestWhole_of_le small,
    decide_eq_false (Int.not_lt.mpr (Int.natCast_nonneg n))]
  rfl

/-- A number below zero is shown as one. -/
theorem shown_neg_iff {n : Int} : shown n < 0 ↔ n < 0 := by
  have error := Binary64.nearestWhole_error n.natAbs
  unfold shown
  by_cases below : n < 0
  · have positive : 0 < Binary64.nearestWhole n.natAbs := by omega
    have six := Decimal.sixDigits_pos positive
    rw [decide_eq_true below]
    change -(_ : Int) < 0 ↔ _
    omega
  · rw [decide_eq_false below]
    exact iff_of_false (Int.not_lt.mpr (Int.natCast_nonneg _)) below

theorem shown_eq_iff {n : Int} : shown n = n ↔ Decimal.HasSixDigits n.natAbs := by
  have error := Binary64.nearestWhole_error n.natAbs
  constructor
  · intro same
    have six := Decimal.hasSixDigits_sixDigits (Binary64.nearestWhole n.natAbs)
    rwa [← natAbs_shown, same] at six
  · intro six
    unfold shown
    rw [Decimal.sixDigits_eq_of_near six error.1 error.2]
    unfold Binary64.signed
    split
    · rename_i below
      rw [decide_eq_true_eq] at below
      omega
    · rename_i notBelow
      rw [decide_eq_true_eq] at notBelow
      omega

theorem briefText_whole {n : Int} (known : HasBinary64 n) :
    briefText (.whole n) = .ok (Binary64.withSign (n < 0)
      (Decimal.briefDigits (Binary64.nearestWhole n.natAbs))) := by
  rcases value_whole known with ⟨mantissa, exponent, value, nearest⟩
  unfold briefText
  rw [value, ← nearest, ← Binary64.briefText_whole]
  rfl

/-- Every whole number in the range of binary64 is shown as a whole number with six
digits. -/
theorem exactValue?_briefText {n : Int} {text : String} (known : HasBinary64 n)
    (written : briefText (.whole n) = .ok text) :
    Decimal.exactValue? text.toList = some (shown n : ℚ) := by
  cases (briefText_whole known).symm.trans written
  exact Binary64.exactValue?_withSign _ (Decimal.exactMagnitude?_briefDigits _)

/-- Numbers that are shown alike have the same text. -/
theorem briefText_eq_of_shown {n m : Int} (known : HasBinary64 n) (knownOther : HasBinary64 m)
    (same : shown n = shown m) : briefText (.whole n) = briefText (.whole m) := by
  have sign : n < 0 ↔ m < 0 := by rw [← shown_neg_iff, same, shown_neg_iff]
  have digits := congrArg (fun k => Decimal.briefDigits (Int.natAbs k)) same
  simp only [natAbs_shown, Decimal.briefDigits_sixDigits] at digits
  rw [briefText_whole known, briefText_whole knownOther, digits, decide_eq_decide.mpr sign]

theorem briefText_whole_of_not_hasBinary64 {n : Int} (unknown : ¬ HasBinary64 n) :
    briefText (.whole n) = .error .tooLarge := by
  unfold briefText
  rw [value_whole_of_not_hasBinary64 unknown]
  rfl

end Number
end BattleMap
