import Mathlib.Tactic.SplitIfs
import BattleMap.Decimal.Reading
import BattleMap.Proofs.Unpacking

namespace BattleMap

open Float.Model (UnpackedFloat)
open Float.Model.UnpackedFloat

/-!
# Numbers that are defined

Digits always denote a number that is defined.  Reading them multiplies or divides by a
power of ten, which is finite and not zero, and rounds.  Neither makes an undefined number
of a defined one, and packing a number into its bits keeps whether it is defined.
-/

namespace Binary64

/-! ## Packing -/

/-- A number is undefined if its exponent is the greatest and its mantissa is not zero. -/
theorem isNaN_unpack_iff {bits : BitVec 64} :
    (UnpackedFloat.unpack .binary64 bits).isNaN = true ↔
      @unpackExponent .binary64 bits = -1#11 ∧ @unpackMantissa .binary64 bits ≠ 0#52 := by
  unfold UnpackedFloat.unpack
  dsimp only
  by_cases top : @unpackExponent .binary64 bits = -1#11
  · rw [if_pos top]
    by_cases infinite : @unpackMantissa .binary64 bits = 0#52
    · rw [if_pos infinite]
      exact iff_of_false Bool.false_ne_true fun undefined => undefined.2 infinite
    · rw [if_neg infinite]
      exact iff_of_true rfl ⟨top, infinite⟩
  · rw [if_neg top]
    refine iff_of_false (Bool.eq_false_iff.mp ?_) fun undefined => top undefined.1
    by_cases bottom : @unpackExponent .binary64 bits = 0#11
    · rw [if_pos bottom]
      by_cases zero : @unpackMantissa .binary64 bits = 0#52
      · rw [dif_pos zero]
        rfl
      · rw [dif_neg zero]
        rfl
    · rw [if_neg bottom]
      rfl

theorem isNaN_unpack_packComponents {exponent : BitVec 11} {mantissa : BitVec 52} (sign : Sign)
    (defined : exponent ≠ -1#11 ∨ mantissa = 0#52) :
    (UnpackedFloat.unpack .binary64 (packComponents .binary64 sign exponent mantissa)).isNaN =
      false := by
  rw [Bool.eq_false_iff, ne_eq, isNaN_unpack_iff, unpackExponent_packComponents,
    unpackMantissa_packComponents]
  rintro ⟨top, nonzero⟩
  exact defined.elim (fun notTop => notTop top) nonzero

/-- Packing keeps whether a number is defined. -/
theorem isNaN_pack (parts : UnpackedFloat) :
    (Float.Model.pack parts).unpack.isNaN = parts.isNaN := by
  rcases parts with sign | _ | sign | ⟨sign, mantissa, exponent, positive⟩
  · exact isNaN_unpack_packComponents sign (.inr rfl)
  · exact isNaN_unpack_iff.mpr (by decide)
  · exact isNaN_unpack_packComponents sign (.inr rfl)
  · change (UnpackedFloat.unpack .binary64 (if 2048 ≤ (exponent + 1023 + 52).toNat + 1 then
      packedInfinity .binary64 sign else if mantissa.log2 + 1 = 53 then
        packComponents .binary64 sign (.ofNat 11 (exponent + 1023 + 52).toNat) (.ofNat 52 mantissa)
      else packComponents .binary64 sign 0#11 (.ofNat 52 mantissa))).isNaN = false
    split_ifs with large
    · exact isNaN_unpack_packComponents sign (.inr rfl)
    · refine isNaN_unpack_packComponents sign (.inl fun top => ?_)
      have value := congrArg BitVec.toNat top
      rw [BitVec.toNat_ofNat, Nat.mod_eq_of_lt (by omega)] at value
      change (exponent + 1023 + 52).toNat = 2047 at value
      omega
    · exact isNaN_unpack_packComponents sign (.inl (by decide))

/-! ## Arithmetic -/

theorem isNaN_zero_or_finite (sign : Sign) (mantissa : Nat) (exponent : Int) :
    (if zero : mantissa = 0 then UnpackedFloat.zero sign
      else .finite sign mantissa exponent (Nat.pos_of_ne_zero zero)).isNaN = false := by
  by_cases zero : mantissa = 0
  · rw [dif_pos zero]
    rfl
  · rw [dif_neg zero]
    rfl

theorem isNaN_roundWithAccuracy (sign : Sign) (mantissa : Nat) (exponent : Int)
    (accuracy : Accuracy) :
    (roundWithAccuracy .binary64 sign mantissa exponent accuracy).isNaN = false :=
  isNaN_zero_or_finite _ _ _

/-- The number is finite and not zero, so one can multiply with it and divide by it. -/
def isFactor : UnpackedFloat -> Bool
  | .finite .. => true
  | _ => false

section

variable {parts factor : UnpackedFloat}

theorem isNaN_mul (defined : parts.isNaN = false) (finite : isFactor factor = true) :
    (UnpackedFloat.mul .binary64 parts factor).isNaN = false := by
  cases factor with
  | infinity | notANumber | zero => cases finite
  | finite =>
      cases parts with
      | infinity | zero => rfl
      | notANumber => cases defined
      | finite => exact isNaN_roundWithAccuracy _ _ _ _

theorem isNaN_div (defined : parts.isNaN = false) (finite : isFactor factor = true) :
    (UnpackedFloat.div .binary64 parts factor).isNaN = false := by
  cases factor with
  | infinity | notANumber | zero => cases finite
  | finite =>
      cases parts with
      | infinity | zero => rfl
      | notANumber => cases defined
      | finite => exact isNaN_roundWithAccuracy _ _ _ _

end

theorem isNaN_ofNat (n : Nat) : (UnpackedFloat.ofNat .binary64 n).isNaN = false := by
  unfold UnpackedFloat.ofNat UnpackedFloat.ofInt UnpackedFloat.normalize UnpackedFloat.round
  split
  · exact isNaN_roundWithAccuracy _ _ _ _
  · rfl
  · exact isNaN_roundWithAccuracy _ _ _ _

theorem isNaN_ofScientific (digits : Nat) (scale : Int) :
    (UnpackedFloat.ofScientific .binary64 digits scale).isNaN = false := by
  unfold UnpackedFloat.ofScientific
  by_cases zero : digits = 0
  · rw [dif_pos zero]
    rfl
  · rw [dif_neg zero]
    by_cases high : scale > 2 ^ 11
    · rw [if_pos high]
      rfl
    · rw [if_neg high]
      by_cases low : scale < -(2 ^ 11 + digits.log2)
      · rw [if_pos low]
        rfl
      · rw [if_neg low]
        by_cases whole : 0 ≤ scale
        · rw [if_pos whole]
          exact isNaN_mul rfl rfl
        · rw [if_neg whole]
          exact isNaN_div rfl rfl

end Binary64

/-! ## Digits -/

namespace Number

theorem isNaN_neg (x : Float) : (-x).isNaN = x.isNaN := by
  change (Float.Model.pack x.toModel.unpack.neg).unpack.isNaN = x.toModel.unpack.isNaN
  rw [Binary64.isNaN_pack]
  cases x.toModel.unpack with
  | infinity | notANumber | zero | finite => rfl

theorem isNaN_toFloat (n : UInt64) : n.toFloat.isNaN = false :=
  (Binary64.isNaN_pack _).trans (Binary64.isNaN_ofNat _)

theorem isFactor_powerOfTen (e : Fin 23) :
    Binary64.isFactor Float.exactlyRepresentablePowersOfTen[e].toModel.unpack = true := by
  revert e
  decide

/-- A decimal is defined, whether it is found with a stored power of ten or without. -/
theorem isNaN_ofScientific (digits : Nat) (below : Bool) (places : Nat) :
    (Float.ofScientific digits below places).isNaN = false := by
  unfold Float.ofScientific
  split_ifs with small
  · exact (Binary64.isNaN_pack _).trans (Binary64.isNaN_div (isNaN_toFloat _)
      (isFactor_powerOfTen ⟨places, by omega⟩))
  · exact (Binary64.isNaN_pack _).trans (Binary64.isNaN_mul (isNaN_toFloat _)
      (isFactor_powerOfTen ⟨places, by omega⟩))
  · exact (Binary64.isNaN_pack _).trans (Binary64.isNaN_ofScientific _ _)
  · exact (Binary64.isNaN_pack _).trans (Binary64.isNaN_ofScientific _ _)

theorem isNaN_nearest (whole fraction : List Char) (exponent : Int) :
    (Decimal.nearest whole fraction exponent).isNaN = false := by
  unfold Decimal.nearest
  dsimp only
  split
  · decide
  · exact isNaN_ofScientific _ _ _

end Number
end BattleMap
