import BattleMap.Decimal.Digits
import BattleMap.Text.DecimalDigit

namespace BattleMap
namespace Decimal

/-!
# Reading fractions

A decimal text becomes the nearest binary64 number, whatever its length: too
large a number becomes an infinity and too small a one zero.  Two grammars are
read.  A map has plain unsigned decimals only.  The command line is generous: it
takes signs, exponents, blanks around the number, single underscores between
digits, digits of any script, and the words for infinity and for an undefined
number.
-/

/-- Ten to this power is beyond every finite binary64 number. -/
def overflowExponent : Int := 309

/-- The binary64 number nearest to `whole.fraction * 10 ^ exponent`.  The place
of the first digit that is not zero already tells when that is an infinity. -/
def nearest (whole fraction : List Char) (exponent : Int) : Float :=
  let figures := (whole ++ fraction).dropWhile (· = '0')
  let scale := exponent - fraction.length
  if !figures.isEmpty && overflowExponent < figures.length + scale then 1 / 0
  else Float.ofScientific (value figures) (decide (scale < 0)) scale.natAbs

/-- An unsigned decimal of a map: digits, and possibly a point and more digits. -/
def readPlain (text : List Char) : Float :=
  nearest (text.takeWhile (· ≠ '.')) ((text.dropWhile (· ≠ '.')).drop 1) 0

namespace FreeForm

/-- Bring digits and blanks of other scripts to the basic alphabet; nothing
else outside that alphabet can belong to a number. -/
def plainChar? (c : Char) : Option Char :=
  if c.toNat < 127 then some c
  else if Text.isWideBlank c then some ' '
  else (Text.digitValue? c).map fun d => Char.ofNat (48 + d)

def trim (text : List Char) : List Char :=
  ((text.dropWhile Text.isPlainBlank).reverse.dropWhile Text.isPlainBlank).reverse

/-- Remove underscores; each of them must stand between two digits. -/
def joinDigits? (before : Option Char) : List Char -> Option (List Char)
  | [] => some []
  | '_' :: rest =>
      if before.any Char.isDigit && rest.head?.any Char.isDigit then joinDigits? (some '_') rest
      else none
  | c :: rest => (joinDigits? (some c) rest).map (c :: ·)

/-- Take a sign off; `true` stands for a minus sign. -/
def sign : List Char -> Bool × List Char
  | '-' :: rest => (true, rest)
  | '+' :: rest => (false, rest)
  | rest => (false, rest)

/-- The exponent at the end of a number, zero if there is none. -/
def exponent? : List Char -> Option Int
  | [] => some 0
  | c :: rest =>
      let (negative, figures) := sign rest
      if c.toLower = 'e' && !figures.isEmpty && figures.all Char.isDigit then
        some (if negative then -(value figures : Int) else value figures)
      else none

/-- An unsigned number: a word, or digits with at most one point among them and
possibly an exponent after them. -/
def magnitude? (text : List Char) : Option Float :=
  let word := String.ofList (text.map Char.toLower)
  if word = "inf" || word = "infinity" then some (1 / 0)
  else if word = "nan" then some (0 / 0)
  else
    let whole := text.takeWhile Char.isDigit
    let afterWhole := text.dropWhile Char.isDigit
    let pointed := afterWhole.head? = some '.'
    let tail := if pointed then afterWhole.drop 1 else afterWhole
    let fraction := if pointed then tail.takeWhile Char.isDigit else []
    let afterFraction := if pointed then tail.dropWhile Char.isDigit else tail
    if whole.isEmpty && fraction.isEmpty then none
    else (exponent? afterFraction).map (nearest whole fraction)

/-- The number that a command-line argument denotes, if it denotes one. -/
def read? (text : List Char) : Option Float := do
  let plain ← if text.all (·.toNat < 128) then some text else text.mapM plainChar?
  let joined ← joinDigits? none (trim plain)
  let (negative, rest) := sign joined
  let x ← magnitude? rest
  return if negative then -x else x

end FreeForm
end Decimal
end BattleMap
