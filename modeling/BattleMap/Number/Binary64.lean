import BattleMap.Decimal.Layout
import BattleMap.Decimal.Shortest
import BattleMap.Fault

namespace BattleMap

/-!
# Exact values of binary64 numbers

Arithmetic on fractions is that of binary64.  Everything else that is done with
a fraction — printing it, cutting or rounding it to a whole number, comparing it
with one — is exact arithmetic on its value `± mantissa * 2 ^ exponent`.
-/

/-- The exact value of a binary64 number. -/
inductive Binary64 where
  | finite (negative : Bool) (mantissa : Nat) (exponent : Int)
  | infinite (negative : Bool)
  | undefined
deriving DecidableEq, Repr

namespace Binary64

/-- Read the three fields of a binary64 number: one sign bit, eleven exponent
bits and fifty-two bits of the mantissa, whose leading one is not stored. -/
def ofFloat (x : Float) : Binary64 :=
  let bits : Nat := x.toBits.toNat
  let negative : Bool := bits / Decimal.twoTo 63 = 1
  let biased : Nat := bits / Decimal.twoTo 52 % Decimal.twoTo 11
  let stored : Nat := bits % Decimal.twoTo 52
  if biased = 2047 then
    if stored = 0 then .infinite negative else .undefined
  else if biased = 0 then .finite negative stored (-1074)
  else .finite negative (Decimal.twoTo 52 + stored) ((biased : Int) - 1075)

/-- The magnitude of a finite value as a quotient of two natural numbers. -/
def magnitude (mantissa : Nat) (exponent : Int) : Nat × Nat :=
  (mantissa * Decimal.twoTo exponent.toNat, Decimal.twoTo (-exponent).toNat)

def signed (negative : Bool) (magnitude : Nat) : Int :=
  if negative then -(magnitude : Int) else magnitude

/-- A whole number made from the magnitude by `toNat`; only a finite value has one. -/
def wholeBy (toNat : Nat -> Nat -> Nat) : Binary64 -> Except Fault Int
  | .finite negative mantissa exponent =>
      let quotient := magnitude mantissa exponent
      .ok (signed negative (toNat quotient.1 quotient.2))
  | .infinite _ => .error .tooLarge
  | .undefined => .error .undefinedNumber

/-- The whole part of a value, toward zero. -/
def truncate : Binary64 -> Except Fault Int :=
  wholeBy fun num den => num / den

/-- The nearest whole number; a tie goes to the even one. -/
def round : Binary64 -> Except Fault Int :=
  wholeBy Decimal.roundQuotient

/-- Compare a value with a whole number; an undefined value has no order. -/
def compareWith (value : Binary64) (n : Int) : Option Ordering :=
  match value with
  | .finite negative mantissa exponent =>
      let quotient := magnitude mantissa exponent
      some (compare (signed negative quotient.1) (n * quotient.2))
  | .infinite negative => some (if negative then .lt else .gt)
  | .undefined => none

def withSign (negative : Bool) (text : List Char) : String :=
  String.ofList (if negative then '-' :: text else text)

/-- The text of a value: `write` chooses and lays out the digits of a positive
number; infinities and undefined values have words. -/
def text (form : Decimal.Layout) (choose : Nat -> Int -> Decimal.Scaled) : Binary64 -> String
  | .finite negative mantissa exponent =>
      withSign negative
        (if mantissa = 0 then form.zero else form.write (choose mantissa exponent))
  | .infinite negative => withSign negative ['i', 'n', 'f']
  | .undefined => "nan"

/-- The shortest text that reads back as the same value. -/
def exactText : Binary64 -> String :=
  text .exact Decimal.shortest

/-- The text with six significant digits. -/
def briefText : Binary64 -> String :=
  text .brief fun mantissa exponent =>
    let quotient := magnitude mantissa exponent
    Decimal.significant 6 quotient.1 quotient.2

end Binary64
end BattleMap
