import BattleMap.Number.Binary64

namespace BattleMap

/-!
# Numbers of a map

Coordinates are whole numbers of any size as long as they are made from whole
numbers, and binary64 fractions as soon as a fraction takes part: a cell of ten
pixels keeps every corner whole, a cell of 12.5 pixels none.  When the two meet,
the whole number is first rounded to binary64, which fails beyond its range.
-/

/-- A coordinate, a size or a radius. -/
inductive Number where
  | whole (n : Int)
  | fraction (x : Float)
deriving DecidableEq, Repr

namespace Number

/-- The largest magnitude up to which every whole number is a binary64 number. -/
def exactLimit : Nat := Decimal.twoTo 53

/-- The binary64 number nearest to a number. -/
def toFloat : Number -> Except Fault Float
  | .fraction x => .ok x
  | .whole n =>
      let x := Float.ofInt n
      if x.isInf then .error .tooLarge else .ok x

/-- Work on two whole numbers exactly, and on anything else in binary64. -/
def combine (onWhole : Int -> Int -> Int) (onFractions : Float -> Float -> Float) :
    Number -> Number -> Except Fault Number
  | .whole a, .whole b => .ok (.whole (onWhole a b))
  | a, b => do
      let x ← a.toFloat
      let y ← b.toFloat
      return .fraction (onFractions x y)

def add : Number -> Number -> Except Fault Number :=
  combine (· + ·) (· + ·)

def sub : Number -> Number -> Except Fault Number :=
  combine (· - ·) (· - ·)

def mul : Number -> Number -> Except Fault Number :=
  combine (· * ·) (· * ·)

/-- Half of a number, always a fraction. -/
def half (a : Number) : Except Fault Number := do
  return .fraction ((← a.toFloat) / 2)

/-- The exact value of a number.  Up to `exactLimit` a whole number is its own
nearest binary64 number. -/
def value : Number -> Except Fault Binary64
  | .fraction x => .ok (.ofFloat x)
  | .whole n =>
      if n.natAbs ≤ exactLimit then .ok (.finite (n < 0) n.natAbs 0)
      else do return .ofFloat (← (Number.whole n).toFloat)

/-- The order of two numbers, exact also between a whole number and a fraction.
An undefined number is neither less than, equal to nor greater than anything. -/
def order : Number -> Number -> Option Ordering
  | .whole a, .whole b => some (compare a b)
  | .fraction x, .whole b => (Binary64.ofFloat x).compareWith b
  | .whole a, .fraction y => ((Binary64.ofFloat y).compareWith a).map Ordering.swap
  | .fraction x, .fraction y =>
      if x < y then some .lt else if x == y then some .eq else if y < x then some .gt else none

def less (a b : Number) : Bool :=
  a.order b = some .lt

def same (a b : Number) : Bool :=
  a.order b = some .eq

/-- The number is zero or below.  This is not the opposite of being positive:
an undefined number is neither. -/
def atMostZero (a : Number) : Bool :=
  a.less (.whole 0) || a.same (.whole 0)

/-- The first number, unless the second is less. -/
def least (a b : Number) : Number :=
  if b.less a then b else a

/-- The first number, unless the second is greater. -/
def greatest (a b : Number) : Number :=
  if a.less b then b else a

/-- The whole part of a number, toward zero. -/
def truncate : Number -> Except Fault Int
  | .whole n => .ok n
  | .fraction x => (Binary64.ofFloat x).truncate

/-- The nearest whole number; a tie goes to the even one. -/
def round : Number -> Except Fault Int
  | .whole n => .ok n
  | .fraction x => (Binary64.ofFloat x).round

/-- All digits of a number: a whole number as it is, unless it has too many digits
to be written, a fraction by the shortest text that reads back. -/
def exactText : Number -> Except Fault String
  | .whole n => if Decimal.isWritable n then .ok (Decimal.ofInt n) else .error .tooManyDigits
  | .fraction x => .ok (Binary64.ofFloat x).exactText

/-- A number with six significant digits, as drawings and reports show it. -/
def briefText (a : Number) : Except Fault String := do
  return (← a.value).briefText

end Number
end BattleMap
