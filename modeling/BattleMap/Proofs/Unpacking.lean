import Mathlib.Algebra.Group.Nat.Defs
import BattleMap.Number

namespace BattleMap

open Float.Model (UnpackedFloat)
open Float.Model.UnpackedFloat

/-!
# Binary64 numbers taken apart

The exact value of a number is read off its bits by division, while the arithmetic of
binary64 takes a number apart first.  Both find the same sign, mantissa and exponent.
So a comparison with zero, which is all that a size has to pass, comes down to the
kind and the sign of what is compared.
-/

namespace Binary64

/-- Whether a sign is that of a number below zero. -/
def isMinus : Sign -> Bool
  | .negative => true
  | .positive => false

/-- The exact value of a number that has been taken apart. -/
def ofParts : UnpackedFloat -> Binary64
  | .notANumber => .undefined
  | .infinity sign => .infinite (isMinus sign)
  | .zero sign => .finite (isMinus sign) 0 (-1074)
  | .finite sign mantissa exponent _ => .finite (isMinus sign) mantissa exponent

theorem isMinus_ofBitVec (bit : BitVec 1) : isMinus (Sign.ofBitVec bit) = decide (bit.toNat = 1) := by
  revert bit
  decide

/-! ## The fields -/

section

variable (bits : BitVec 64)

theorem toNat_unpackExponent :
    (@unpackExponent .binary64 bits).toNat = bits.toNat / 2 ^ 52 % 2 ^ 11 := by
  unfold unpackExponent
  rw [BitVec.toNat_cast, BitVec.extractLsb_toNat, Nat.shiftRight_eq_div_pow]
  rfl

theorem toNat_unpackMantissa :
    (@unpackMantissa .binary64 bits).toNat = bits.toNat % 2 ^ 52 := by
  unfold unpackMantissa
  rw [BitVec.toNat_cast, BitVec.extractLsb_toNat, Nat.shiftRight_eq_div_pow, Nat.pow_zero,
    Nat.div_one]
  rfl

theorem toNat_unpackSign :
    (@unpackSign .binary64 bits).toNat = bits.toNat / 2 ^ 63 := by
  unfold unpackSign
  rw [BitVec.toNat_cast, BitVec.extractLsb_toNat, Nat.shiftRight_eq_div_pow]
  apply Nat.mod_eq_of_lt
  have bound : bits.toNat < 2 ^ 64 := bits.isLt
  exact Nat.div_lt_of_lt_mul bound

/-- The leading one of the mantissa is not stored. -/
theorem toNat_append_mantissa (mantissa : BitVec 52) :
    (1#1 ++ mantissa).toNat = 2 ^ 52 + mantissa.toNat := by
  rw [BitVec.toNat_append, ← Nat.shiftLeft_add_eq_or_of_lt mantissa.isLt]
  rfl

end

/-- Reading the bits of a number by division takes it apart. -/
theorem ofFloat_eq (x : Float) : ofFloat x = ofParts x.toModel.unpack := by
  have exponent : x.toBits.toNat / Decimal.twoTo 52 % Decimal.twoTo 11 =
      (@unpackExponent .binary64 x.toBits.toBitVec).toNat :=
    (toNat_unpackExponent x.toBits.toBitVec).symm
  have mantissa : x.toBits.toNat % Decimal.twoTo 52 =
      (@unpackMantissa .binary64 x.toBits.toBitVec).toNat :=
    (toNat_unpackMantissa x.toBits.toBitVec).symm
  have sign : decide (x.toBits.toNat / Decimal.twoTo 63 = 1) =
      isMinus (Sign.ofBitVec (@unpackSign .binary64 x.toBits.toBitVec)) := by
    rw [isMinus_ofBitVec, toNat_unpackSign]
    rfl
  have top : (@unpackExponent .binary64 x.toBits.toBitVec).toNat = 2047 ↔
      @unpackExponent .binary64 x.toBits.toBitVec = -1#11 := by
    rw [← BitVec.toNat_inj]
    rfl
  have bottom : (@unpackExponent .binary64 x.toBits.toBitVec).toNat = 0 ↔
      @unpackExponent .binary64 x.toBits.toBitVec = 0#11 := by
    rw [← BitVec.toNat_inj]
    rfl
  have none : (@unpackMantissa .binary64 x.toBits.toBitVec).toNat = 0 ↔
      @unpackMantissa .binary64 x.toBits.toBitVec = 0#52 := by
    rw [← BitVec.toNat_inj]
    rfl
  unfold ofFloat
  dsimp only
  rw [exponent, mantissa, sign]
  change _ = ofParts (UnpackedFloat.unpack .binary64 x.toBits.toBitVec)
  unfold UnpackedFloat.unpack
  dsimp only
  by_cases isTop : @unpackExponent .binary64 x.toBits.toBitVec = -1#11
  · rw [if_pos (top.mpr isTop), if_pos isTop]
    by_cases isNone : @unpackMantissa .binary64 x.toBits.toBitVec = 0#52
    · rw [if_pos (none.mpr isNone), if_pos isNone]
      rfl
    · rw [if_neg ((not_congr none).mpr isNone), if_neg isNone]
      rfl
  · rw [if_neg ((not_congr top).mpr isTop), if_neg isTop]
    by_cases isBottom : @unpackExponent .binary64 x.toBits.toBitVec = 0#11
    · rw [if_pos (bottom.mpr isBottom), if_pos isBottom]
      by_cases isNone : @unpackMantissa .binary64 x.toBits.toBitVec = 0#52
      · rw [dif_pos isNone, none.mpr isNone]
        rfl
      · rw [dif_neg isNone, bottom.mpr isBottom]
        rfl
    · rw [if_neg ((not_congr bottom).mpr isBottom), if_neg isBottom]
      change _ = finite _ (BitVec.toNat (1#1 ++ _)) _
      rw [toNat_append_mantissa]
      rfl

/-! ## Zero -/

/-- How a number that has been taken apart compares with zero. -/
def sideOfZero : UnpackedFloat -> Option Ordering
  | .notANumber => none
  | .zero _ => some .eq
  | .infinity sign | .finite sign _ _ _ => some (if isMinus sign then .lt else .gt)

theorem compare_zero (parts : UnpackedFloat) :
    parts.compare (.zero .positive) = sideOfZero parts := by
  rcases parts with sign | _ | _ | sign
  · cases sign <;> rfl
  · rfl
  · rfl
  · cases sign <;> rfl

theorem zero_compare (parts : UnpackedFloat) :
    UnpackedFloat.compare (.zero .positive) parts = (sideOfZero parts).map Ordering.swap := by
  rcases parts with sign | _ | _ | sign
  · cases sign <;> rfl
  · rfl
  · rfl
  · cases sign <;> rfl

theorem compareWith_finite_zero (negative : Bool) (mantissa : Nat) (exponent : Int) :
    (finite negative mantissa exponent).compareWith 0 =
      some (compare (signed negative (mantissa * Decimal.twoTo exponent.toNat)) 0) := by
  change some (compare _ (0 * _)) = _
  rw [Int.zero_mul]
  rfl

theorem compareWith_zero (parts : UnpackedFloat) :
    (ofParts parts).compareWith 0 = sideOfZero parts := by
  rcases parts with sign | _ | sign | ⟨sign, mantissa, exponent, positive⟩
  · rfl
  · rfl
  · unfold ofParts
    rw [compareWith_finite_zero, Nat.zero_mul]
    cases sign <;> rfl
  · have above : (0 : Int) < (mantissa * Decimal.twoTo exponent.toNat : Nat) :=
      Int.natCast_pos.mpr (Nat.mul_pos positive (Decimal.twoTo_pos _))
    unfold ofParts sideOfZero
    rw [compareWith_finite_zero]
    cases sign with
    | negative => exact congrArg some (Int.compare_eq_lt.mpr (Int.neg_neg_of_pos above))
    | positive => exact congrArg some (Int.compare_eq_gt.mpr above)

theorem isNaN_iff {parts : UnpackedFloat} : parts.isNaN = true ↔ sideOfZero parts = none := by
  cases parts with
  | notANumber => exact iff_of_true rfl rfl
  | infinity | zero | finite => exact iff_of_false Bool.false_ne_true nofun

end Binary64

/-! ## Floats and zero -/

namespace Number

variable {x : Float}

/-- On which side of zero a float lies, if it has a value at all. -/
def side (x : Float) : Option Ordering :=
  Binary64.sideOfZero x.toModel.unpack

theorem pos_iff_side : 0 < x ↔ side x = some .gt := by
  change decide _ = true ↔ _
  rw [decide_eq_true_iff]
  change (UnpackedFloat.compare (.zero .positive) x.toModel.unpack == some .lt) = true ↔ _
  rw [beq_iff_eq, Binary64.zero_compare]
  unfold side
  rcases Binary64.sideOfZero x.toModel.unpack with _ | _ | _ | _ <;> decide

theorem le_zero_iff_side : x ≤ 0 ↔ side x = some .lt ∨ side x = some .eq := by
  change decide _ = true ↔ _
  rw [decide_eq_true_iff]
  change (x.toModel.unpack.compare (.zero .positive)).any Ordering.isLE = true ↔ _
  rw [Binary64.compare_zero]
  unfold side
  rcases Binary64.sideOfZero x.toModel.unpack with _ | _ | _ | _ <;> decide

theorem isNaN_iff_side : x.isNaN = true ↔ side x = none :=
  Binary64.isNaN_iff

theorem order_fraction_zero (x : Float) : (fraction x).order (whole 0) = side x := by
  change (Binary64.ofFloat x).compareWith 0 = _
  rw [Binary64.ofFloat_eq, Binary64.compareWith_zero]
  rfl

end Number
end BattleMap
