import Mathlib.Algebra.Field.Rat
import BattleMap.Decimal.Layout
import BattleMap.Decimal.Reading
import BattleMap.Proofs.Tokenization

namespace BattleMap
namespace Decimal

/-!
# Reading numbers back

A drawing shows a number by its digits, with a point among them or an exponent behind
them.  Whoever reads the drawing takes these for the number, so what is shown is the
exact value of the text.  Laying digits out does not change their value: wherever the
point is put, the exponent and the zeros that are filled in make up for it.
-/

/-- The digits behind the point at the front of a text, if there is one, and the rest. -/
def splitPoint : List Char -> List Char × List Char
  | '.' :: tail => (tail.takeWhile Char.isDigit, tail.dropWhile Char.isDigit)
  | rest => ([], rest)

/-- The exact value of an unsigned number: digits, possibly a point and more digits, and
possibly an exponent. -/
def exactMagnitude? (text : List Char) : Option ℚ :=
  let whole := text.takeWhile Char.isDigit
  let (fraction, rest) := splitPoint (text.dropWhile Char.isDigit)
  if whole.isEmpty then none
  else (FreeForm.exponent? rest).map fun exponent =>
    value (whole ++ fraction) * (10 : ℚ) ^ (exponent - fraction.length : Int)

/-- The exact value of a number with or without a sign. -/
def exactValue? (text : List Char) : Option ℚ :=
  let (negative, rest) := FreeForm.sign text
  (exactMagnitude? rest).map fun magnitude => if negative then -magnitude else magnitude

/-! ## Values of digits -/

/-- Every character is a digit. -/
def AreDigits (text : List Char) : Prop :=
  forall c, c ∈ text -> c.isDigit = true

theorem areDigits_digits (n : Nat) : AreDigits (digits n) :=
  fun _ member => isDigit_of_mem_digits member

theorem areDigits_zeros (count : Nat) : AreDigits (List.replicate count '0') := by
  intro c member
  rw [List.eq_of_mem_replicate member]
  rfl

theorem AreDigits.append {text rest : List Char} (first : AreDigits text)
    (second : AreDigits rest) : AreDigits (text ++ rest) :=
  List.forall_mem_append.mpr ⟨first, second⟩

theorem AreDigits.sublist {text part : List Char} (all : AreDigits text)
    (sublist : part.Sublist text) : AreDigits part :=
  fun c member => all c (sublist.subset member)

theorem value_append_zeros (text : List Char) (count : Nat) :
    value (text ++ List.replicate count '0') = value text * 10 ^ count := by
  unfold value
  rw [Nat.ofDigitChars_append, Nat.ofDigitChars_replicate_zero, Nat.mul_comm]

theorem value_zeros_append (count : Nat) (text : List Char) :
    value (List.replicate count '0' ++ text) = value text := by
  unfold value
  rw [Nat.ofDigitChars_append, Nat.ofDigitChars_replicate_zero, Nat.mul_zero]

/-! ## Shapes of texts -/

/-- The number ends here: neither a digit nor a point follows. -/
def EndsNumber (rest : List Char) : Prop :=
  forall c, c ∈ rest.head? -> c.isDigit = false ∧ c ≠ '.'

section

variable {whole fraction rest : List Char}

theorem splitPoint_of_endsNumber (ends : EndsNumber rest) : splitPoint rest = ([], rest) := by
  unfold splitPoint
  split
  · exact absurd rfl (ends '.' rfl).2
  · rfl

theorem exactMagnitude?_whole (nonempty : whole ≠ []) (all : AreDigits whole)
    (ends : EndsNumber rest) :
    exactMagnitude? (whole ++ rest) =
      (FreeForm.exponent? rest).map fun exponent => value whole * (10 : ℚ) ^ exponent := by
  have stops := fun c member => (ends c member).1
  unfold exactMagnitude?
  rw [Token.takeWhile_run all stops, Token.dropWhile_run all stops, splitPoint_of_endsNumber ends]
  dsimp only
  rw [if_neg (by rwa [List.isEmpty_iff])]
  simp only [List.append_nil, List.length_nil, Int.natCast_zero, Int.sub_zero]

theorem exactMagnitude?_pointed (nonempty : whole ≠ []) (wholeDigits : AreDigits whole)
    (fractionDigits : AreDigits fraction) (ends : EndsNumber rest) :
    exactMagnitude? (whole ++ '.' :: (fraction ++ rest)) =
      (FreeForm.exponent? rest).map fun exponent =>
        value (whole ++ fraction) * (10 : ℚ) ^ (exponent - fraction.length : Int) := by
  have stops := fun c member => (ends c member).1
  have atPoint : forall c, c ∈ ('.' :: (fraction ++ rest)).head? -> c.isDigit = false := by
    rintro c ⟨⟩
    rfl
  have split : splitPoint ('.' :: (fraction ++ rest)) = (fraction, rest) := by
    change ((fraction ++ rest).takeWhile Char.isDigit, (fraction ++ rest).dropWhile _) = _
    rw [Token.takeWhile_run fractionDigits stops, Token.dropWhile_run fractionDigits stops]
  unfold exactMagnitude?
  rw [Token.takeWhile_run wholeDigits atPoint, Token.dropWhile_run wholeDigits atPoint, split]
  dsimp only
  rw [if_neg (by rwa [List.isEmpty_iff])]

theorem exactMagnitude?_digits (nonempty : whole ≠ []) (all : AreDigits whole) :
    exactMagnitude? whole = some (value whole : ℚ) := by
  have read := @exactMagnitude?_whole whole [] nonempty all nofun
  rw [List.append_nil] at read
  exact read.trans (congrArg some (mul_one _))

theorem exactMagnitude?_fraction (nonempty : whole ≠ []) (wholeDigits : AreDigits whole)
    (fractionDigits : AreDigits fraction) :
    exactMagnitude? (whole ++ '.' :: fraction) =
      some (value (whole ++ fraction) * (10 : ℚ) ^ (0 - fraction.length : Int)) := by
  have read := @exactMagnitude?_pointed whole fraction [] nonempty wholeDigits fractionDigits nofun
  rw [List.append_nil] at read
  exact read

end

/-! ## Exponents -/

theorem endsNumber_exponent (text : List Char) : EndsNumber ('e' :: text) := by
  rintro c ⟨⟩
  decide

/-- The digits of an exponent; there are at least two. -/
def exponentFigures (exponent : Int) : List Char :=
  let plain := digits exponent.natAbs
  if plain.length < 2 then '0' :: plain else plain

theorem exponentFigures_spec (exponent : Int) :
    exponentFigures exponent ≠ [] ∧ AreDigits (exponentFigures exponent) ∧
      value (exponentFigures exponent) = exponent.natAbs := by
  unfold exponentFigures
  dsimp only
  split
  · refine ⟨List.cons_ne_nil _ _, (areDigits_zeros 1).append (areDigits_digits _), ?_⟩
    exact (value_zeros_append 1 _).trans (value_digits _)
  · exact ⟨digits_ne_nil _, areDigits_digits _, value_digits _⟩

theorem exponent?_of_sign {text figures : List Char} {negative : Bool}
    (signed : FreeForm.sign text = (negative, figures)) (nonempty : figures ≠ [])
    (all : AreDigits figures) :
    FreeForm.exponent? ('e' :: text) =
      some (if negative then -(value figures : Int) else value figures) := by
  unfold FreeForm.exponent?
  dsimp only
  rw [signed]
  refine if_pos ?_
  rw [Bool.and_eq_true, Bool.and_eq_true, List.all_eq_true, Bool.not_eq_true',
    List.isEmpty_eq_false_iff]
  exact ⟨⟨by decide, nonempty⟩, all⟩

/-- An exponent is read back. -/
theorem exponent?_exponentText (exponent : Int) :
    FreeForm.exponent? ('e' :: exponentText exponent) = some exponent := by
  rcases exponentFigures_spec exponent with ⟨nonempty, all, number⟩
  unfold exponentText
  by_cases below : exponent < 0
  · have signed : FreeForm.sign ('-' :: exponentFigures exponent) =
        (true, exponentFigures exponent) := rfl
    rw [if_pos below]
    refine (exponent?_of_sign signed nonempty all).trans (congrArg some ?_)
    rw [number, if_pos rfl]
    omega
  · have signed : FreeForm.sign ('+' :: exponentFigures exponent) =
        (false, exponentFigures exponent) := rfl
    rw [if_neg below]
    refine (exponent?_of_sign signed nonempty all).trans (congrArg some ?_)
    rw [number, if_neg Bool.false_ne_true]
    omega

/-! ## Layouts -/

/-- The value of significant digits, the first of which counts `10 ^ exponent`. -/
def placedValue (significant : List Char) (exponent : Int) : ℚ :=
  value significant * (10 : ℚ) ^ (exponent + 1 - significant.length)

section

variable {form : Layout} {significant : List Char} {exponent : Int}

theorem exactMagnitude?_exponential (nonempty : significant ≠ []) (all : AreDigits significant)
    (large : ¬ (-4 ≤ exponent && exponent < form.positionalBelow) = true) :
    exactMagnitude? (form.layOut significant exponent) = some (placedValue significant exponent) := by
  unfold Layout.layOut placedValue
  rw [if_neg large]
  rcases significant with _ | ⟨first, _ | ⟨second, others⟩⟩
  · exact absurd rfl nonempty
  · refine (exactMagnitude?_whole nonempty all (endsNumber_exponent _)).trans ?_
    rw [exponent?_exponentText]
    simp
  · have firstDigit : AreDigits [first] := all.sublist (by simp)
    have otherDigits : AreDigits (second :: others) := all.sublist (by simp)
    refine (exactMagnitude?_pointed (List.cons_ne_nil _ _) firstDigit otherDigits
      (endsNumber_exponent _)).trans ?_
    rw [exponent?_exponentText]
    simp

theorem exactMagnitude?_below (all : AreDigits significant)
    (positional : (-4 ≤ exponent && exponent < form.positionalBelow) = true)
    (below : exponent < 0) :
    exactMagnitude? (form.layOut significant exponent) = some (placedValue significant exponent) := by
  have zeros := areDigits_zeros (exponent.natAbs - 1)
  unfold Layout.layOut placedValue
  rw [if_pos positional, if_pos below]
  refine (exactMagnitude?_fraction (List.cons_ne_nil '0' []) (areDigits_zeros 1)
    (zeros.append all)).trans (congrArg some ?_)
  have number : value (['0'] ++ (List.replicate (exponent.natAbs - 1) '0' ++ significant)) =
      value significant :=
    (value_zeros_append 1 _).trans (value_zeros_append _ significant)
  have places : (0 - (List.replicate (exponent.natAbs - 1) '0' ++ significant).length : Int) =
      exponent + 1 - significant.length := by
    rw [List.length_append, List.length_replicate]
    omega
  rw [number, places]

theorem exactMagnitude?_positional (plain : form.keepsPoint = false) (nonempty : significant ≠ [])
    (all : AreDigits significant)
    (positional : (-4 ≤ exponent && exponent < form.positionalBelow) = true)
    (notBelow : ¬ exponent < 0) :
    exactMagnitude? (form.layOut significant exponent) = some (placedValue significant exponent) := by
  unfold Layout.layOut placedValue
  rw [if_pos positional, if_neg notBelow]
  dsimp only
  rw [plain]
  by_cases short : significant.length ≤ exponent.toNat + 1
  · have scale : exponent + 1 - significant.length =
        (exponent.toNat + 1 - significant.length : Nat) := by omega
    rw [List.drop_of_length_le short, List.take_of_length_le short, scale, zpow_natCast]
    refine (exactMagnitude?_digits (List.append_ne_nil_of_left_ne_nil nonempty _)
      (all.append (areDigits_zeros _))).trans (congrArg some ?_)
    rw [value_append_zeros, Nat.cast_mul, Nat.cast_pow, Nat.cast_ofNat]
  · have nonzero : significant.take (exponent.toNat + 1) ≠ [] :=
      List.ne_nil_of_length_pos (by rw [List.length_take]; omega)
    have places : (0 - (significant.drop (exponent.toNat + 1)).length : Int) =
        exponent + 1 - significant.length := by
      rw [List.length_drop]
      omega
    have isNotEmpty : (significant.drop (exponent.toNat + 1)).isEmpty = false := by
      rw [List.isEmpty_eq_false_iff, ne_eq, List.drop_eq_nil_iff]
      exact short
    rw [isNotEmpty, Nat.sub_eq_zero_of_le (by omega), List.replicate_zero, List.append_nil]
    refine (exactMagnitude?_fraction nonzero (all.sublist (List.take_sublist _ _))
      (all.sublist (List.drop_sublist _ _))).trans (congrArg some ?_)
    rw [List.take_append_drop, places]

/-- Laying digits out keeps their value. -/
theorem exactMagnitude?_layOut (plain : form.keepsPoint = false) (nonempty : significant ≠ [])
    (all : AreDigits significant) :
    exactMagnitude? (form.layOut significant exponent) =
      some (placedValue significant exponent) := by
  by_cases positional : (-4 ≤ exponent && exponent < form.positionalBelow) = true
  · by_cases below : exponent < 0
    · exact exactMagnitude?_below all positional below
    · exact exactMagnitude?_positional plain nonempty all positional below
  · exact exactMagnitude?_exponential nonempty all positional

end

/-! ## Dropped zeros -/

/-- The zeros that are dropped can be put back. -/
theorem exists_zeros (text : List Char) : Exists fun count =>
    withoutTrailingZeros text ++ List.replicate count '0' = text := by
  have zeros : text.reverse.takeWhile (· = '0') =
      List.replicate (text.reverse.takeWhile (· = '0')).length '0' :=
    List.eq_replicate_of_mem fun _ member => of_decide_eq_true
      (List.mem_takeWhile_imp (p := fun c => decide (c = '0')) member)
  refine ⟨(text.reverse.takeWhile (· = '0')).length, ?_⟩
  unfold withoutTrailingZeros
  rw [← List.reverse_replicate, ← zeros, ← List.reverse_append, List.takeWhile_append_dropWhile,
    List.reverse_reverse]

/-- A positive decimal is read back from its text. -/
theorem exactMagnitude?_write {form : Layout} (plain : form.keepsPoint = false) {number : Scaled}
    (positive : 0 < number.coefficient) :
    exactMagnitude? (form.write number) = some (number.coefficient * (10 : ℚ) ^ number.scale) := by
  rcases exists_zeros (digits number.coefficient) with ⟨count, restored⟩
  have all := areDigits_digits number.coefficient
  have coefficient : value (withoutTrailingZeros (digits number.coefficient)) * 10 ^ count =
      number.coefficient := by
    rw [← value_append_zeros, restored, value_digits]
  have length := congrArg List.length restored
  rw [List.length_append, List.length_replicate] at length
  have nonempty : withoutTrailingZeros (digits number.coefficient) ≠ [] := by
    intro nothing
    rw [nothing, show value [] = 0 from rfl, Nat.zero_mul] at coefficient
    omega
  rw [← restored] at all
  refine (exactMagnitude?_layOut plain nonempty (all.sublist (List.sublist_append_left _ _))).trans
    (congrArg some ?_)
  have scale : ((digits number.coefficient).length - 1 + number.scale + 1 -
      (withoutTrailingZeros (digits number.coefficient)).length : Int) = count + number.scale := by
    omega
  have restoredValue : (number.coefficient : ℚ) =
      value (withoutTrailingZeros (digits number.coefficient)) * 10 ^ count := by
    exact_mod_cast coefficient.symm
  unfold placedValue
  rw [scale, zpow_add₀ (by decide), zpow_natCast, ← mul_assoc, ← restoredValue]

/-! ## Signs -/

/-- An unsigned number has no sign in front of its digits. -/
theorem sign_of_exactMagnitude? {text : List Char} {magnitude : ℚ}
    (read : exactMagnitude? text = some magnitude) : FreeForm.sign text = (false, text) := by
  unfold FreeForm.sign
  split
  · cases read
  · cases read
  · rfl

theorem exactValue?_unsigned {text : List Char} {magnitude : ℚ}
    (read : exactMagnitude? text = some magnitude) : exactValue? text = some magnitude := by
  unfold exactValue?
  rw [sign_of_exactMagnitude? read]
  dsimp only
  rw [read]
  rfl

theorem exactValue?_minus {text : List Char} {magnitude : ℚ}
    (read : exactMagnitude? text = some magnitude) :
    exactValue? ('-' :: text) = some (-magnitude) := by
  change (exactMagnitude? text).map _ = _
  rw [read]
  rfl

end Decimal
end BattleMap
