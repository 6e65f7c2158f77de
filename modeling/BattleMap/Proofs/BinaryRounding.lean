import BattleMap.Proofs.Nearest
import BattleMap.Proofs.Unpacking

namespace BattleMap

open Float.Model (UnpackedFloat Format)
open Float.Model.UnpackedFloat

/-!
# Whole numbers in binary64

Beyond fifty-three binary digits a whole number is rounded to the nearest binary64
number before it is shown.  The arithmetic of binary64 does this by shifting digits out
one by one, and keeps of them whether the last one was set and whether any other was.
That is enough to find the nearest number, so the result is the quotient by a power of
two, rounded to a whole number.
-/

namespace Binary64

/-! ## Shifting -/

/-- A mantissa from which digits have been shifted out stands for a quotient. -/
structure Stands (shifted : ExtendedMantissa) (num den : Nat) : Prop where
  positive : 0 < den
  mantissa : shifted.mantissa = num / den
  roundBit : shifted.roundBit = true ↔ den ≤ 2 * (num % den)
  stickyBit : shifted.stickyBit = true ↔ num % den ≠ 0 ∧ 2 * (num % den) ≠ den

namespace Stands

variable {shifted : ExtendedMantissa} {num den : Nat}

theorem exact (num : Nat) : Stands (.ofMantissaAndAccuracy num .exact) num 1 where
  positive := Nat.one_pos
  mantissa := (Nat.div_one num).symm
  roundBit := by
    rw [Nat.mod_one]
    exact ⟨nofun, nofun⟩
  stickyBit := by
    rw [Nat.mod_one]
    exact ⟨nofun, fun nonzero => absurd rfl nonzero.1⟩

/-- One more digit is shifted out. -/
theorem shiftRightOne (stands : Stands shifted num den) :
    Stands shifted.shiftRightOne num (den * 2) := by
  have positive := stands.positive
  have split : num % (den * 2) = num % den + den * (num / den % 2) := Nat.mod_mul
  have remainder := Nat.mod_lt num positive
  have digit : num / den % 2 = 0 ∨ num / den % 2 = 1 := Nat.mod_two_eq_zero_or_one _
  refine ⟨Nat.mul_pos positive Nat.two_pos, ?_, ?_, ?_⟩
  · change shifted.mantissa / 2 = _
    rw [stands.mantissa, Nat.div_div_eq_div_mul]
  · change (shifted.mantissa % 2 != 0) = true ↔ _
    rw [bne_iff_ne, stands.mantissa, split]
    rcases digit with zero | one
    · rw [zero]
      omega
    · rw [one]
      omega
  · change (shifted.roundBit || shifted.stickyBit) = true ↔ _
    rw [Bool.or_eq_true, stands.roundBit, stands.stickyBit, split]
    rcases digit with zero | one
    · rw [zero]
      omega
    · rw [one]
      omega

theorem shiftRight (stands : Stands shifted num den) (places : Nat) :
    Stands (shifted >>> places) num (den * 2 ^ places) := by
  induction places with
  | zero =>
      rw [Nat.pow_zero, Nat.mul_one]
      exact stands
  | succ places earlier =>
      rw [Nat.pow_succ, ← Nat.mul_assoc]
      exact earlier.shiftRightOne

/-- The digits that are kept round as the quotient does. -/
theorem roundedMantissa (stands : Stands shifted num den) :
    shifted.roundedMantissa = Decimal.roundQuotient num den := by
  rcases stands with ⟨positive, mantissa, roundBit, stickyBit⟩
  rcases shifted with ⟨kept, half, rest⟩
  dsimp only at mantissa roundBit stickyBit
  subst mantissa
  cases half with
  | false =>
      have low : 2 * (num % den) < den := Nat.not_le.mp fun high => nomatch roundBit.mpr high
      rw [Decimal.roundQuotient_down low]
      cases rest <;> rfl
  | true =>
      have high := roundBit.mp rfl
      cases rest with
      | false =>
          have tie : 2 * (num % den) = den := Decidable.byContradiction fun different =>
            nomatch stickyBit.mpr ⟨by omega, different⟩
          rw [Decimal.roundQuotient_tie tie]
          rfl
      | true =>
          have higher : den < 2 * (num % den) := Nat.lt_of_le_of_ne high (stickyBit.mp rfl).2.symm
          rw [Decimal.roundQuotient_up higher]
          rfl

end Stands

/-! ## Rounding -/

/-- So many digits are shifted out that fifty-three remain. -/
theorem shiftToTargetExponent_eq {m p : Nat} {e : Int} (log : m.log2 = 52 + p)
    (normal : -1074 ≤ e + p) :
    shiftToTargetExponent .binary64 m e .exact =
      (ExtendedMantissa.ofMantissaAndAccuracy m .exact >>> p, e + p) := by
  have target : Format.targetExponent .binary64 (Float.Model.totalExponent m e) = e + p := by
    change max ((m.log2 : Int) + 1 + e - 53) (-1074) = e + p
    rw [log]
    omega
  have places : (e + p - e).toNat = p := by omega
  change shiftToExponent m e .exact (Format.targetExponent .binary64
    (Float.Model.totalExponent m e)) = _
  rw [target]
  unfold shiftToExponent
  rw [places]

theorem log2_eq {n k : Nat} (least : 2 ^ k ≤ n) (bound : n < 2 ^ (k + 1)) : n.log2 = k :=
  (Nat.log2_eq_iff (Nat.ne_of_gt (Nat.lt_of_lt_of_le (Nat.two_pow_pos k) least))).mpr
    ⟨least, bound⟩

theorem mantissa_exact_shiftRight (m p : Nat) :
    (ExtendedMantissa.ofMantissaAndAccuracy m .exact >>> p).mantissa = m / 2 ^ p := by
  rw [((Stands.exact m).shiftRight p).mantissa, Nat.one_mul]

theorem roundedMantissa_exact_shiftRight (m p : Nat) :
    (ExtendedMantissa.ofMantissaAndAccuracy m .exact >>> p).roundedMantissa =
      Decimal.roundQuotient m (2 ^ p) := by
  rw [((Stands.exact m).shiftRight p).roundedMantissa, Nat.one_mul]

/-- A mantissa that rounding has carried into one digit more is shifted once again. -/
theorem shiftToTargetExponent_carry {m : Nat} {e : Int} (least : 2 ^ 52 ≤ m) (most : m ≤ 2 ^ 53)
    (normal : -1074 ≤ e) :
    Exists fun shifted => Exists fun exponent =>
      shiftToTargetExponent .binary64 m e .exact = (shifted, exponent) ∧
        (2 ^ 52 ≤ shifted.mantissa ∧ shifted.mantissa < 2 ^ 53) ∧
          (exponent = e ∧ shifted.mantissa = m ∨ exponent = e + 1 ∧ 2 * shifted.mantissa = m) := by
  rcases Nat.eq_or_lt_of_le most with rfl | within
  · refine ⟨_, _, shiftToTargetExponent_eq (p := 1) (log2_eq (Nat.le_refl _) (by decide)) (by omega),
      ?_⟩
    rw [mantissa_exact_shiftRight]
    exact ⟨by decide, .inr ⟨rfl, by decide⟩⟩
  · refine ⟨_, _, shiftToTargetExponent_eq (p := 0) (log2_eq least within) (by omega), ?_⟩
    rw [mantissa_exact_shiftRight, Nat.pow_zero, Nat.div_one]
    exact ⟨⟨least, within⟩, .inl ⟨Int.add_zero e, rfl⟩⟩

/-- Of the mantissa fifty-three digits are kept. -/
theorem div_between {m p : Nat} (log : m.log2 = 52 + p) :
    2 ^ 52 ≤ m / 2 ^ p ∧ m / 2 ^ p < 2 ^ 53 := by
  have nonzero : m ≠ 0 := by
    rintro rfl
    rw [Nat.log2_zero] at log
    omega
  have least := Nat.log2_self_le nonzero
  have most := Nat.lt_log2_self (n := m)
  rw [log, Nat.pow_add] at least
  rw [log, Nat.add_right_comm, Nat.pow_add] at most
  exact ⟨(Nat.le_div_iff_mul_le (Nat.two_pow_pos p)).mpr least,
    (Nat.div_lt_iff_lt_mul (Nat.two_pow_pos p)).mpr most⟩

theorem roundWithAccuracy_eq {m p : Nat} {e : Int} (sign : Sign) (log : m.log2 = 52 + p)
    (normal : -1074 ≤ e + p) :
    Exists fun mantissa => Exists fun exponent => Exists fun positive =>
      roundWithAccuracy .binary64 sign m e .exact = .finite sign mantissa exponent positive ∧
        (2 ^ 52 ≤ mantissa ∧ mantissa < 2 ^ 53) ∧
          (exponent = e + p ∧ mantissa = Decimal.roundQuotient m (2 ^ p) ∨
            exponent = e + p + 1 ∧ 2 * mantissa = Decimal.roundQuotient m (2 ^ p)) := by
  have kept := div_between log
  have between := Decimal.roundQuotient_between m (2 ^ p)
  rcases shiftToTargetExponent_carry (Nat.le_trans kept.1 between.1)
    (Nat.le_trans between.2 kept.2) normal with ⟨shifted, exponent, second, range, cases⟩
  have positive : 0 < shifted.mantissa := Nat.lt_of_lt_of_le (by decide) range.1
  refine ⟨shifted.mantissa, exponent, positive, ?_, range, cases⟩
  unfold roundWithAccuracy
  rw [shiftToTargetExponent_eq log normal]
  dsimp only
  rw [roundedMantissa_exact_shiftRight, second]
  exact dif_neg (Nat.ne_of_gt positive)

/-! ## Packing -/

theorem ofBitVec_unpackSign_packComponents (sign : Sign) (exponent : BitVec 11)
    (mantissa : BitVec 52) :
    Sign.ofBitVec (unpackSign (packComponents .binary64 sign exponent mantissa)) = sign := by
  unfold unpackSign packComponents BitVec.extractLsb
  rw [BitVec.extractLsb'_append_eq_of_le (by decide),
    BitVec.extractLsb'_append_eq_of_le (by decide)]
  cases sign <;> rfl

theorem unpack_infinity {bits : BitVec 64} (top : @unpackExponent .binary64 bits = -1#11)
    (none : @unpackMantissa .binary64 bits = 0#52) :
    UnpackedFloat.unpack .binary64 bits =
      .infinity (Sign.ofBitVec (@unpackSign .binary64 bits)) := by
  unfold UnpackedFloat.unpack
  dsimp only
  rw [if_pos top, if_pos none]

theorem unpack_packedInfinity (sign : Sign) :
    UnpackedFloat.unpack .binary64 (packedInfinity .binary64 sign) = .infinity sign := by
  refine (unpack_infinity unpackExponent_packComponents unpackMantissa_packComponents).trans ?_
  exact congrArg _ (ofBitVec_unpackSign_packComponents sign _ _)

theorem unpack_finite {bits : BitVec 64} (notTop : @unpackExponent .binary64 bits ≠ -1#11)
    (notBottom : @unpackExponent .binary64 bits ≠ 0#11) :
    UnpackedFloat.unpack .binary64 bits = .finite (Sign.ofBitVec (@unpackSign .binary64 bits))
      (2 ^ 52 + (@unpackMantissa .binary64 bits).toNat)
      ((@unpackExponent .binary64 bits).toNat - 1075) (by omega) := by
  unfold UnpackedFloat.unpack
  dsimp only
  rw [if_neg notTop, if_neg notBottom]
  congr 1
  exact toNat_append_mantissa _

theorem unpack_packComponents {exponent : BitVec 11} (notTop : exponent ≠ -1#11)
    (notBottom : exponent ≠ 0#11) (sign : Sign) (mantissa : BitVec 52) :
    UnpackedFloat.unpack .binary64 (packComponents .binary64 sign exponent mantissa) =
      .finite sign (2 ^ 52 + mantissa.toNat) (exponent.toNat - 1075) (by omega) := by
  have signField := ofBitVec_unpackSign_packComponents sign exponent mantissa
  have exponentField : @unpackExponent .binary64 (packComponents .binary64 sign exponent mantissa) =
      exponent := unpackExponent_packComponents
  have mantissaField : @unpackMantissa .binary64 (packComponents .binary64 sign exponent mantissa) =
      mantissa := unpackMantissa_packComponents
  generalize packComponents .binary64 sign exponent mantissa = bits at *
  subst signField exponentField mantissaField
  exact unpack_finite notTop notBottom

/-- A number with a mantissa of fifty-three digits is kept, unless it is too large. -/
theorem unpack_pack {mantissa : Nat} {exponent : Int} (sign : Sign) (positive : 0 < mantissa)
    (least : 2 ^ 52 ≤ mantissa) (most : mantissa < 2 ^ 53) (normal : -1074 ≤ exponent) :
    (Float.Model.pack (.finite sign mantissa exponent positive)).unpack =
      if 971 < exponent then .infinity sign else .finite sign mantissa exponent positive := by
  have full : mantissa.log2 + 1 = 53 := congrArg (· + 1) (log2_eq least most)
  change UnpackedFloat.unpack .binary64 (if 2048 ≤ (exponent + 1023 + 52).toNat + 1 then
    packedInfinity .binary64 sign else if mantissa.log2 + 1 = 53 then
      packComponents .binary64 sign (.ofNat 11 (exponent + 1023 + 52).toNat) (.ofNat 52 mantissa)
    else _) = _
  rw [if_pos full]
  by_cases large : 971 < exponent
  · rw [if_pos large, if_pos (by omega), unpack_packedInfinity]
  · have field : (BitVec.ofNat 11 (exponent + 1023 + 52).toNat).toNat =
        (exponent + 1023 + 52).toNat := by
      rw [BitVec.toNat_ofNat]
      exact Nat.mod_eq_of_lt (by omega)
    have rest : (BitVec.ofNat 52 mantissa).toNat = mantissa - 2 ^ 52 := by
      rw [BitVec.toNat_ofNat]
      omega
    rw [if_neg large, if_neg (by omega), unpack_packComponents]
    · congr 1
      · rw [rest]
        omega
      · rw [field]
        omega
    · intro top
      have value := congrArg BitVec.toNat top
      rw [field] at value
      change (exponent + 1023 + 52).toNat = 2047 at value
      omega
    · intro bottom
      have value := congrArg BitVec.toNat bottom
      rw [field] at value
      change (exponent + 1023 + 52).toNat = 0 at value
      omega

/-! ## Whole numbers -/

/-- How many binary digits of a whole number do not fit into a mantissa. -/
def excess (n : Nat) : Nat :=
  n.log2 - 52

/-- The binary64 number nearest to a whole number, if none were too large. -/
def nearestWhole (n : Nat) : Nat :=
  Decimal.roundQuotient n (2 ^ excess n) * 2 ^ excess n

theorem log2_large {n : Nat} (large : 2 ^ 53 ≤ n) : 53 ≤ n.log2 :=
  (Nat.le_log2 (Nat.ne_of_gt (Nat.lt_of_lt_of_le (Nat.two_pow_pos 53) large))).mpr large

theorem log2_shifted {n : Nat} (large : 2 ^ 53 ≤ n) :
    (n <<< 53 * 10 ^ 0).log2 = 52 + (excess n + 53) := by
  have digits := log2_large large
  have nonzero : n ≠ 0 := Nat.ne_of_gt (Nat.lt_of_lt_of_le (Nat.two_pow_pos 53) large)
  have places : 52 + (excess n + 53) = n.log2 + 53 := by
    unfold excess
    omega
  rw [Nat.pow_zero, Nat.mul_one, Nat.shiftLeft_eq, places]
  refine log2_eq ?_ ?_
  · rw [Nat.pow_add]
    exact Nat.mul_le_mul_right _ (Nat.log2_self_le nonzero)
  · rw [Nat.add_right_comm, Nat.pow_add]
    exact Nat.mul_lt_mul_of_pos_right Nat.lt_log2_self (Nat.two_pow_pos 53)

theorem roundQuotient_shifted (n : Nat) :
    Decimal.roundQuotient (n <<< 53 * 10 ^ 0) (2 ^ (excess n + 53)) =
      Decimal.roundQuotient n (2 ^ excess n) := by
  rw [Nat.pow_zero, Nat.mul_one, Nat.shiftLeft_eq, Nat.pow_add]
  exact Decimal.roundQuotient_mul_mul (Nat.two_pow_pos 53)

theorem ofScientific_zero {n : Nat} (nonzero : n ≠ 0) :
    UnpackedFloat.ofScientific .binary64 n 0 =
      roundWithAccuracy .binary64 .positive (n <<< 53 * 10 ^ 0) (-53) .exact := by
  have notHigh : ¬ (0 : Int) > 2 ^ 11 := by decide
  have notLow : ¬ (0 : Int) < -(2 ^ 11 + n.log2) := by omega
  unfold UnpackedFloat.ofScientific
  rw [dif_neg nonzero, if_neg notHigh, if_neg notLow, if_pos (Int.le_refl 0)]
  rfl

theorem ofNat_eq {n : Nat} (large : 2 ^ 53 ≤ n) :
    (Float.ofNat n).toModel = .pack (roundWithAccuracy .binary64 .positive (n <<< 53 * 10 ^ 0)
      (-53) .exact) := by
  have nonzero : n ≠ 0 := Nat.ne_of_gt (Nat.lt_of_lt_of_le (Nat.two_pow_pos 53) large)
  rw [← ofScientific_zero nonzero]
  change (Float.ofScientific n false 0).toModel = _
  unfold Float.ofScientific
  rw [dif_neg (fun small => Nat.not_lt.mpr large small.1)]
  rfl

/-- The sign of a whole number. -/
def signOf (n : Int) : Sign :=
  if n < 0 then .negative else .positive

theorem isMinus_signOf (n : Int) : isMinus (signOf n) = decide (n < 0) := by
  unfold signOf
  by_cases below : n < 0
  · rw [if_pos below, decide_eq_true below]
    rfl
  · rw [if_neg below, decide_eq_false below]
    rfl

/-- A number is this one with the given mantissa and exponent, or an infinity if the
exponent is too large. -/
def IsRounded (parts : UnpackedFloat) (sign : Sign) (mantissa : Nat) (exponent : Int) : Prop :=
  Exists fun positive =>
    parts = if 971 < exponent then .infinity sign else .finite sign mantissa exponent positive

theorem unpack_ofNat {n : Nat} (large : 2 ^ 53 ≤ n) :
    Exists fun mantissa => Exists fun exponent : Nat =>
      (2 ^ 52 ≤ mantissa ∧ mantissa < 2 ^ 53) ∧ mantissa * 2 ^ exponent = nearestWhole n ∧
        IsRounded (Float.ofNat n).toModel.unpack .positive mantissa exponent := by
  have scale : (-53 : Int) + (excess n + 53 : Nat) = excess n := by omega
  rcases roundWithAccuracy_eq (e := -53) .positive (log2_shifted large) (by omega) with
    ⟨mantissa, exponent, positive, rounded, range, result⟩
  rw [roundQuotient_shifted, scale] at result
  rw [ofNat_eq large, rounded]
  rcases result with ⟨same, exact⟩ | ⟨carried, half⟩
  · subst same
    exact ⟨mantissa, excess n, range, exact ▸ rfl, positive,
      unpack_pack .positive positive range.1 range.2 (by omega)⟩
  · subst carried
    refine ⟨mantissa, excess n + 1, range, ?_, positive,
      unpack_pack .positive positive range.1 range.2 (by omega)⟩
    unfold nearestWhole
    rw [← half, Nat.pow_succ, Nat.mul_comm 2, Nat.mul_assoc, Nat.mul_comm 2]

theorem unpack_neg {x : Float} {mantissa : Nat} {exponent : Int}
    (range : 2 ^ 52 ≤ mantissa ∧ mantissa < 2 ^ 53) (normal : -1074 ≤ exponent)
    (rounded : IsRounded x.toModel.unpack .positive mantissa exponent) :
    IsRounded (-x).toModel.unpack .negative mantissa exponent := by
  rcases rounded with ⟨positive, same⟩
  refine ⟨positive, ?_⟩
  change (Float.Model.pack x.toModel.unpack.neg).unpack = _
  rw [same]
  by_cases large : 971 < exponent
  · rw [if_pos large, if_pos large]
    exact unpack_packedInfinity .negative
  · rw [if_neg large, ← unpack_pack .negative positive range.1 range.2 normal]
    rfl

theorem unpack_ofInt {n : Int} (large : 2 ^ 53 ≤ n.natAbs) :
    Exists fun mantissa => Exists fun exponent : Nat =>
      (2 ^ 52 ≤ mantissa ∧ mantissa < 2 ^ 53) ∧ mantissa * 2 ^ exponent = nearestWhole n.natAbs ∧
        IsRounded (Float.ofInt n).toModel.unpack (signOf n) mantissa exponent := by
  rcases unpack_ofNat large with ⟨mantissa, exponent, range, value, rounded⟩
  refine ⟨mantissa, exponent, range, value, ?_⟩
  cases n with
  | ofNat n =>
      have sign : signOf (.ofNat n) = .positive := if_neg (Int.not_lt.mpr (Int.natCast_nonneg n))
      rw [sign]
      exact rounded
  | negSucc n =>
      have sign : signOf (.negSucc n) = .negative := if_pos (Int.negSucc_lt_zero n)
      rw [sign]
      exact unpack_neg range (by omega) rounded

/-! ## Range and error -/

theorem excess_of_lt {n : Nat} (small : n < 2 ^ 53) : excess n = 0 := by
  have digits : n.log2 ≤ 52 := by
    rcases Nat.eq_zero_or_pos n with rfl | positive
    · decide
    · exact Nat.le_of_lt_succ ((Nat.log2_lt (Nat.ne_of_gt positive)).mpr small)
  exact Nat.sub_eq_zero_of_le digits

/-- A whole number of fifty-three binary digits is a binary64 number. -/
theorem nearestWhole_of_lt {n : Nat} (small : n < 2 ^ 53) : nearestWhole n = n := by
  unfold nearestWhole
  rw [excess_of_lt small, Nat.pow_zero, Decimal.roundQuotient_one, Nat.mul_one]

theorem nearestWhole_of_le {n : Nat} (small : n ≤ 2 ^ 53) : nearestWhole n = n := by
  rcases Nat.eq_or_lt_of_le small with rfl | less
  · decide +kernel
  · exact nearestWhole_of_lt less

/-- A large whole number has fifty-three binary digits in front of those that do not fit. -/
theorem div_excess {n : Nat} (large : 2 ^ 53 ≤ n) :
    2 ^ 52 ≤ n / 2 ^ excess n ∧ n / 2 ^ excess n < 2 ^ 53 := by
  have digits := log2_large large
  exact div_between (Nat.add_sub_of_le (by omega)).symm

/-- The nearest binary64 number is off by a part in `2 ^ 53` at most. -/
theorem nearestWhole_error (n : Nat) :
    2 ^ 53 * nearestWhole n ≤ 2 ^ 53 * n + n ∧ 2 ^ 53 * n ≤ 2 ^ 53 * nearestWhole n + n := by
  rcases Nat.lt_or_ge n (2 ^ 53) with small | large
  · rw [nearestWhole_of_lt small]
    omega
  · have unit := Nat.two_pow_pos (excess n)
    have error : 2 * (2 ^ excess n * Decimal.roundQuotient n (2 ^ excess n)) ≤ _ ∧ _ :=
      Decimal.roundQuotient_error unit
    have places := (Nat.le_div_iff_mul_le unit).mp (div_excess large).1
    unfold nearestWhole
    rw [Nat.mul_comm (Decimal.roundQuotient n (2 ^ excess n))]
    omega

/-- What has more digits stays as large. -/
theorem le_nearestWhole {n k : Nat} (beyond : 2 ^ (53 + (k + 1)) ≤ n) :
    2 ^ (53 + (k + 1)) ≤ nearestWhole n := by
  have large : 2 ^ 53 ≤ n := Nat.le_trans (Nat.pow_le_pow_right Nat.two_pos (by omega)) beyond
  have nonzero : n ≠ 0 := Nat.ne_of_gt (Nat.lt_of_lt_of_le (Nat.two_pow_pos 53) large)
  have digits : 53 + (k + 1) ≤ n.log2 := (Nat.le_log2 nonzero).mpr beyond
  have places : 1 + (k + 1) ≤ excess n := by
    unfold excess
    omega
  calc 2 ^ (53 + (k + 1)) = 2 ^ 52 * 2 ^ (1 + (k + 1)) := by
        rw [← Nat.pow_add, ← Nat.add_assoc 52 1]
    _ ≤ nearestWhole n := Nat.mul_le_mul
        (Nat.le_trans (div_excess large).1 (Decimal.roundQuotient_between n _).1)
        (Nat.pow_le_pow_right Nat.two_pos places)

/-- The numbers of a binade lie `2 ^ (k + 1)` apart.  What is as close to the next binade
as half that distance is rounded into it. -/
theorem nearestWhole_lt_iff_of_binade {n k : Nat} (least : 2 ^ (52 + (k + 1)) ≤ n)
    (most : n < 2 ^ (53 + (k + 1))) :
    nearestWhole n < 2 ^ (53 + (k + 1)) ↔ n + 2 ^ k < 2 ^ (53 + (k + 1)) := by
  have unit : excess n = k + 1 := by
    unfold excess
    rw [log2_eq least (by rwa [Nat.add_right_comm])]
    omega
  unfold nearestWhole
  rw [unit, Nat.pow_add 2 53, Nat.mul_lt_mul_right (Nat.two_pow_pos (k + 1)), Nat.pow_succ',
    Decimal.roundQuotient_lt_iff (Nat.two_pow_pos k) (by decide), Nat.mul_comm (2 * 2 ^ k)]

/-- What is rounded out of a range is beyond it, or within half a unit of its end. -/
theorem nearestWhole_lt_iff {n k : Nat} :
    nearestWhole n < 2 ^ (53 + (k + 1)) ↔ n + 2 ^ k < 2 ^ (53 + (k + 1)) := by
  have double : 2 ^ (53 + (k + 1)) = 2 * 2 ^ (52 + (k + 1)) := by
    rw [← Nat.pow_succ']
    congr 1
    omega
  have unit : 2 ^ (52 + (k + 1)) = 2 ^ 53 * 2 ^ k := by
    rw [← Nat.pow_add]
    congr 1
    omega
  rcases Nat.lt_or_ge n (2 ^ (52 + (k + 1))) with less | least
  · have error := (nearestWhole_error n).1
    omega
  · rcases Nat.lt_or_ge n (2 ^ (53 + (k + 1))) with most | beyond
    · exact nearestWhole_lt_iff_of_binade least most
    · have stays := le_nearestWhole beyond
      omega

theorem mul_two_pow_lt_iff {mantissa exponent k : Nat}
    (range : 2 ^ 52 ≤ mantissa ∧ mantissa < 2 ^ 53) :
    mantissa * 2 ^ exponent < 2 ^ (53 + (k + 1)) ↔ exponent ≤ k + 1 := by
  constructor
  · intro less
    refine Nat.le_of_not_lt fun beyond => Nat.not_le.mpr less ?_
    calc 2 ^ (53 + (k + 1)) = 2 ^ 52 * 2 ^ (k + 2) := by
          rw [← Nat.pow_add]
          congr 1
          omega
      _ ≤ mantissa * 2 ^ exponent :=
          Nat.mul_le_mul range.1 (Nat.pow_le_pow_right Nat.two_pos beyond)
  · intro within
    calc mantissa * 2 ^ exponent < 2 ^ 53 * 2 ^ exponent :=
          Nat.mul_lt_mul_of_pos_right range.2 (Nat.two_pow_pos exponent)
      _ ≤ 2 ^ (53 + (k + 1)) := by
          rw [← Nat.pow_add]
          exact Nat.pow_le_pow_right Nat.two_pos (Nat.add_le_add_left within 53)

end Binary64

/-! ## Values of whole numbers -/

namespace Number

/-- The greatest binary64 numbers lie `2 ^ 971` apart, and half of that is two to this
power. -/
def halfOfLast : Nat := 970

/-- The whole number is not beyond every binary64 number.  These end half a unit before
`2 ^ 1024`. -/
def HasBinary64 (n : Int) : Prop :=
  n.natAbs + 2 ^ halfOfLast < 2 ^ (53 + (halfOfLast + 1))

theorem hasBinary64_iff {n : Int} :
    HasBinary64 n ↔ Binary64.nearestWhole n.natAbs < 2 ^ (53 + (halfOfLast + 1)) :=
  Binary64.nearestWhole_lt_iff.symm

theorem hasBinary64_of_le {n : Int} (small : n.natAbs ≤ 2 ^ 53) : HasBinary64 n := by
  rw [hasBinary64_iff, Binary64.nearestWhole_of_le small]
  exact Nat.lt_of_le_of_lt small (Nat.pow_lt_pow_right (by decide) (by omega))

theorem value_whole_of_large {n : Int} (large : 2 ^ 53 < n.natAbs) :
    value (.whole n) = if (Float.ofInt n).isInf then .error .tooLarge
      else .ok (.ofFloat (Float.ofInt n)) := by
  unfold value
  dsimp only
  rw [if_neg (show ¬ n.natAbs ≤ exactLimit from Nat.not_le.mpr large)]
  unfold toFloat
  dsimp only
  split <;> rfl

/-- The value of a whole number is that of the nearest binary64 number. -/
theorem value_whole {n : Int} (known : HasBinary64 n) :
    Exists fun mantissa => Exists fun exponent : Nat =>
      value (.whole n) = .ok (.finite (n < 0) mantissa exponent) ∧
        mantissa * 2 ^ exponent = Binary64.nearestWhole n.natAbs := by
  rcases Nat.lt_or_ge (2 ^ 53) n.natAbs with large | small
  · rcases Binary64.unpack_ofInt (Nat.le_of_lt large) with
      ⟨mantissa, exponent, range, nearest, positive, rounded⟩
    rw [hasBinary64_iff, ← nearest, Binary64.mul_two_pow_lt_iff range, halfOfLast] at known
    rw [if_neg (by omega)] at rounded
    refine ⟨mantissa, exponent, ?_, nearest⟩
    rw [value_whole_of_large large, Binary64.ofFloat_eq]
    change (if (Float.ofInt n).toModel.unpack.isInf = true then _ else _) = _
    rw [rounded, ← Binary64.isMinus_signOf]
    rfl
  · exact ⟨n.natAbs, 0, if_pos small, (Nat.mul_one _).trans
      (Binary64.nearestWhole_of_le small).symm⟩

/-- A whole number that is too large for binary64 has no value. -/
theorem value_whole_of_not_hasBinary64 {n : Int} (unknown : ¬ HasBinary64 n) :
    value (.whole n) = .error .tooLarge := by
  have large : 2 ^ 53 < n.natAbs :=
    Nat.lt_of_not_le fun small => unknown (hasBinary64_of_le small)
  rcases Binary64.unpack_ofInt (Nat.le_of_lt large) with
    ⟨mantissa, exponent, range, nearest, positive, rounded⟩
  rw [hasBinary64_iff, ← nearest, Binary64.mul_two_pow_lt_iff range, halfOfLast] at unknown
  rw [if_pos (by omega)] at rounded
  rw [value_whole_of_large large]
  change (if (Float.ofInt n).toModel.unpack.isInf = true then _ else _) = _
  rw [rounded]
  rfl

end Number
end BattleMap
