import BattleMap.Decimal.Rounding

namespace BattleMap
namespace Decimal

/-!
# Positional and exponent layout

Digits that have been chosen still have to be laid out.  A number is written
positionally while its leading exponent is at least minus four and below a
limit, and otherwise with an exponent that has a sign and at least two digits.
Trailing zeros of the fraction are dropped in both forms.
-/

/-- The decisions that the forms of a number leave open. -/
structure Layout where
  /-- The least leading exponent that is no longer written positionally. -/
  positionalBelow : Int
  /-- Whether a positional whole number still shows a point and a zero. -/
  keepsPoint : Bool

/-- The form that reads back exactly: positional below `10 ^ 16`, and always
recognisable as a fraction by its point. -/
def Layout.exact : Layout := ⟨16, true⟩

/-- The form of drawings and reports, for six significant digits. -/
def Layout.brief : Layout := ⟨6, false⟩

/-- Drop the zeros at the end of a digit string. -/
def withoutTrailingZeros (digits : List Char) : List Char :=
  (digits.reverse.dropWhile (· = '0')).reverse

/-- An exponent with its sign and at least two digits. -/
def exponentText (exponent : Int) : List Char :=
  let plain := digits exponent.natAbs
  (if exponent < 0 then '-' else '+') :: (if plain.length < 2 then '0' :: plain else plain)

/-- Lay out significant digits, the first of which counts `10 ^ exponent`. -/
def Layout.layOut (form : Layout) (significant : List Char) (exponent : Int) : List Char :=
  if -4 ≤ exponent && exponent < form.positionalBelow then
    if exponent < 0 then
      '0' :: '.' :: List.replicate (exponent.natAbs - 1) '0' ++ significant
    else
      let places := exponent.toNat + 1
      let fraction := significant.drop places
      let whole := significant.take places ++ List.replicate (places - significant.length) '0'
      if fraction.isEmpty then
        if form.keepsPoint then whole ++ ['.', '0'] else whole
      else whole ++ '.' :: fraction
  else
    let fraction := significant.drop 1
    significant.take 1 ++ (if fraction.isEmpty then [] else '.' :: fraction) ++
      'e' :: exponentText exponent

def Layout.write (form : Layout) (number : Scaled) : List Char :=
  let all := digits number.coefficient
  form.layOut (withoutTrailingZeros all) (all.length - 1 + number.scale)

def Layout.zero (form : Layout) : List Char :=
  if form.keepsPoint then ['0', '.', '0'] else ['0']

end Decimal
end BattleMap
