namespace BattleMap
namespace Decimal

/-!
# Decimal digits

Numbers are written without leading zeros and read with any number of them.
Reading what was written gives the number back (`value_digits`), so a statement
that is printed for a message can be read again.
-/

/-- A number as text. -/
def ofNat (n : Nat) : String :=
  n.repr

/-- The digits of a number; zero has one digit. -/
def digits (n : Nat) : List Char :=
  (ofNat n).toList

/-- The number that a string of digits denotes. -/
def value (text : List Char) : Nat :=
  Nat.ofDigitChars 10 text 0

def width (n : Nat) : Nat :=
  (ofNat n).length

/-- A whole number as text, with a minus sign if it is below zero. -/
def ofInt (n : Int) : String :=
  if n < 0 then "-" ++ ofNat n.natAbs else ofNat n.natAbs

theorem digits_eq_toDigits (n : Nat) : digits n = Nat.toDigits 10 n :=
  Nat.toList_repr

theorem length_digits (n : Nat) : (digits n).length = width n :=
  String.length_toList

/-- Reading the digits of a number gives the number back. -/
theorem value_digits (n : Nat) : value (digits n) = n := by
  rw [digits_eq_toDigits]
  exact Nat.ofDigitChars_ten_toDigits

theorem isDigit_of_mem_digits {n : Nat} {c : Char} (member : c ∈ digits n) : c.isDigit = true := by
  rw [digits_eq_toDigits] at member
  exact Nat.isDigit_of_mem_toDigits (by omega) (by omega) member

theorem digits_ne_nil (n : Nat) : digits n ≠ [] := by
  rw [digits_eq_toDigits]
  exact Nat.toDigits_ne_nil

end Decimal
end BattleMap
