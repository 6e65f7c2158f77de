import BattleMap.Decimal.Rounding

namespace BattleMap
namespace Decimal

/-!
# The fewest digits that read back

A binary64 number stands for every real number that rounds to it.  Those form
an interval around its exact value, and the number is written by the decimal
with the fewest digits in that interval; among several with equally many, the
one nearest to the exact value is taken, and from a tie the even one.

On a decimal grid only the two neighbours of the exact value need to be tried:
a grid point inside the interval has one of them between itself and the value.
Seventeen digits always suffice.
-/

/-- A positive binary64 number `mantissa * 2 ^ exponent`, and the interval of
real numbers that round to it, in units of `2 ^ (exponent - 2)`. -/
structure RoundingInterval where
  low : Nat
  value : Nat
  high : Nat
  /-- The ends belong to the interval exactly if the mantissa is even. -/
  closed : Bool
  unitExponent : Int

/-- The interval around a positive number.  Below a power of two the spacing is
half as wide, unless the numbers are already the subnormal ones. -/
def RoundingInterval.around (mantissa : Nat) (exponent : Int) : RoundingInterval where
  low := if mantissa = twoTo 52 && -1074 < exponent then 4 * mantissa - 1 else 4 * mantissa - 2
  value := 4 * mantissa
  high := 4 * mantissa + 2
  closed := mantissa % 2 = 0
  unitExponent := exponent - 2

def RoundingInterval.leadingExponent (interval : RoundingInterval) : Int :=
  Decimal.leadingExponent (interval.value * twoTo interval.unitExponent.toNat)
    (twoTo (-interval.unitExponent).toNat)

/-- The decimal on the grid `10 ^ scale` that lies in the interval, if there is
one.  Grid and interval are compared after multiplying both by the same power of
two and of ten, which makes them whole: `step` is the width of the grid then,
and `grain` the unit of the interval. -/
def RoundingInterval.onGrid? (interval : RoundingInterval) (scale : Int) : Option Scaled :=
  let step := tenTo scale.toNat * twoTo (-interval.unitExponent).toNat
  let grain := twoTo interval.unitExponent.toNat * tenTo (-scale).toNat
  let inside := fun candidate : Nat =>
    if interval.closed then
      interval.low * grain ≤ candidate * step && candidate * step ≤ interval.high * grain
    else interval.low * grain < candidate * step && candidate * step < interval.high * grain
  let below := interval.value * grain / step
  let above := below + 1
  let fromBelow := interval.value * grain - below * step
  let toAbove := above * step - interval.value * grain
  if inside below && inside above then
    if fromBelow < toAbove || (fromBelow = toAbove && below % 2 = 0) then some ⟨below, scale⟩
    else some ⟨above, scale⟩
  else if inside below then some ⟨below, scale⟩
  else if inside above then some ⟨above, scale⟩
  else none

/-- The shortest decimal that rounds to the positive number
`mantissa * 2 ^ exponent`. -/
def shortest (mantissa : Nat) (exponent : Int) : Scaled :=
  let interval := RoundingInterval.around mantissa exponent
  let leading := interval.leadingExponent
  ((List.range' 1 17).findSome? fun (count : Nat) => interval.onGrid? (leading + 1 - count)).getD
    (significant 17 (mantissa * twoTo exponent.toNat) (twoTo (-exponent).toNat))

end Decimal
end BattleMap
