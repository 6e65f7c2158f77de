import BattleMap.Number

namespace BattleMap

/-!
# Coordinates of statements

The statements of a map that was read have whole coordinates.  Statements made by
hand may have any numbers, and are checked and drawn by the same rules: all that
these rules ask of a coordinate is said here.  On whole numbers only writing can go
wrong, if there are too many digits; a sum with a fraction can leave the range of
binary64.
-/

/-- What the rules for statements ask of a coordinate. -/
class Coordinate (α : Type) where
  /-- A whole number as a coordinate. -/
  ofInt : Int -> α
  /-- The coordinate as a whole number, if it is given as one. -/
  toInt? : α -> Option Int
  toNumber : α -> Number
  add : α -> α -> Except Fault α
  /-- The first coordinate is less than the second or equal to it. -/
  atMost : α -> α -> Bool
  /-- The first coordinate is less than the second. -/
  below : α -> α -> Bool
  text : α -> Except Fault String

namespace Coordinate

instance : Coordinate Int where
  ofInt n := n
  toInt? n := some n
  toNumber := .whole
  add a b := .ok (a + b)
  atMost a b := a ≤ b
  below a b := a < b
  text n := (Number.whole n).exactText

instance : Coordinate Number where
  ofInt := .whole
  toInt?
    | .whole n => some n
    | .fraction _ => none
  toNumber x := x
  add := Number.add
  atMost a b := a.less b || a.same b
  below := Number.less
  text := Number.exactText

@[simp] theorem ofInt_int (n : Int) : (ofInt n : Int) = n := rfl

@[simp] theorem toInt?_int (n : Int) : toInt? n = some n := rfl

@[simp] theorem toNumber_int (n : Int) : toNumber n = .whole n := rfl

@[simp] theorem add_int (a b : Int) : add a b = .ok (a + b) := rfl

@[simp] theorem atMost_int (a b : Int) : atMost a b = decide (a ≤ b) := rfl

@[simp] theorem below_int (a b : Int) : below a b = decide (a < b) := rfl

@[simp] theorem text_int (n : Int) : text n = (Number.whole n).exactText := rfl

/-- The whole number that is needed where a fraction has no meaning. -/
def needInt [Coordinate α] (x : α) : Except Fault Int :=
  match toInt? x with
  | some n => .ok n
  | none => .error .notWhole

@[simp] theorem needInt_int (n : Int) : needInt n = .ok n := rfl

end Coordinate
end BattleMap
