import BattleMap.Decimal.Digits
import BattleMap.Decimal.Power

namespace BattleMap
namespace Decimal

/-!
# Rounding a quotient to decimal digits

A positive quotient of two natural numbers is rounded exactly, without passing
through an approximation: `roundQuotient` goes to the nearest natural number
and from a tie to the even one, and `leadingExponent` finds the power of ten of
the first digit by counting digits.
-/

/-- A decimal number `coefficient * 10 ^ scale`. -/
structure Scaled where
  coefficient : Nat
  scale : Int
deriving DecidableEq, Repr

/-- The natural number nearest to a quotient; a tie goes to the even neighbour. -/
def roundQuotient (num den : Nat) : Nat :=
  let whole := num / den
  let twice := 2 * (num % den)
  if den < twice || (twice = den && whole % 2 = 1) then whole + 1 else whole

/-- The power of ten that counts the first digit of the positive quotient
`num / den`.  Below one the digits of the inverse are counted; the inverse of
an exact power of ten is the only one whose first digit stands one place to
the left of that count. -/
def leadingExponent (num den : Nat) : Int :=
  if den ≤ num then (width (num / den) : Int) - 1
  else
    let places := width (den / num)
    if num * tenTo (places - 1) = den then 1 - (places : Int) else -(places : Int)

/-- A positive quotient rounded to the given number of significant digits.
Rounding may carry into one digit more; the value is the same. -/
def significant (count : Nat) (num den : Nat) : Scaled :=
  let scale := leadingExponent num den + 1 - count
  ⟨roundQuotient (num * tenTo (-scale).toNat) (den * tenTo scale.toNat), scale⟩

end Decimal
end BattleMap
