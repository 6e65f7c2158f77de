namespace BattleMap
namespace Decimal

/-!
# Powers of two and ten

Exact arithmetic on binary and decimal fractions needs only the powers of their
two bases.  A power of ten also says which whole numbers are short enough to be
written.
-/

def twoTo (exponent : Nat) : Nat :=
  Nat.pow 2 exponent

def tenTo (exponent : Nat) : Nat :=
  Nat.pow 10 exponent

/-- The most digits that a whole number is read or written with. -/
def mostDigits : Nat := 4300

/-- The least number with too many digits.  It is never worked out in a proof. -/
@[irreducible] def writtenLimit : Nat := tenTo mostDigits

def isWritable (n : Int) : Bool :=
  n.natAbs < writtenLimit

theorem isWritable_iff {n : Int} : isWritable n = true ↔ n.natAbs < writtenLimit :=
  decide_eq_true_iff

theorem not_isWritable_writtenLimit : ¬ isWritable writtenLimit = true := by
  rw [isWritable_iff, Int.natAbs_natCast]
  exact Nat.lt_irrefl _

theorem twoTo_succ (exponent : Nat) : twoTo (exponent + 1) = twoTo exponent * 2 := rfl

theorem twoTo_pos (exponent : Nat) : 0 < twoTo exponent := by
  induction exponent with
  | zero => exact Nat.one_pos
  | succ exponent positive =>
      rw [twoTo_succ]
      exact Nat.mul_pos positive Nat.two_pos

end Decimal
end BattleMap
