import BattleMap.Decimal.Rounding

namespace BattleMap
namespace Decimal

/-!
# The nearest whole number

A whole number is rounded twice on the way to its text: to the fifty-three binary
digits of binary64, and from there to six decimal ones.  Each time the result is off
by half a unit at most, and what is off by less than half a unit is the result.
-/

section

variable {num den : Nat}

theorem roundQuotient_down (low : 2 * (num % den) < den) : roundQuotient num den = num / den := by
  refine if_neg ?_
  rw [Bool.or_eq_true, Bool.and_eq_true, decide_eq_true_eq, decide_eq_true_eq]
  omega

theorem roundQuotient_up (high : den < 2 * (num % den)) :
    roundQuotient num den = num / den + 1 := by
  refine if_pos ?_
  rw [Bool.or_eq_true, decide_eq_true_eq]
  exact .inl high

theorem roundQuotient_tie (tie : 2 * (num % den) = den) :
    roundQuotient num den = num / den + num / den % 2 := by
  change (if (decide (den < 2 * (num % den)) || decide (2 * (num % den) = den) &&
    decide (num / den % 2 = 1)) = true then _ else _) = _
  rw [tie, decide_eq_false (Nat.lt_irrefl den), decide_eq_true rfl, Bool.false_or, Bool.true_and]
  rcases Nat.mod_two_eq_zero_or_one (num / den) with even | odd
  · rw [even]
    rfl
  · rw [odd]
    rfl

/-- The nearest whole number is one of the two between which the quotient lies. -/
theorem roundQuotient_between (num den : Nat) :
    num / den ≤ roundQuotient num den ∧ roundQuotient num den ≤ num / den + 1 := by
  rcases Nat.lt_trichotomy (2 * (num % den)) den with low | tie | high
  · rw [roundQuotient_down low]
    omega
  · rw [roundQuotient_tie tie]
    omega
  · rw [roundQuotient_up high]
    omega

/-- The nearest whole number is off by half a unit at most. -/
theorem roundQuotient_error (positive : 0 < den) :
    2 * (den * roundQuotient num den) ≤ 2 * num + den ∧
      2 * num ≤ 2 * (den * roundQuotient num den) + den := by
  have parts := Nat.div_add_mod num den
  have remainder := Nat.mod_lt num positive
  rcases Nat.lt_trichotomy (2 * (num % den)) den with low | tie | high
  · rw [roundQuotient_down low]
    omega
  · rw [roundQuotient_tie tie]
    rcases Nat.mod_two_eq_zero_or_one (num / den) with even | odd
    · rw [even, Nat.add_zero]
      omega
    · rw [odd, Nat.mul_succ]
      omega
  · rw [roundQuotient_up high, Nat.mul_succ]
    omega

end

/-- What is off by less than half a unit is the nearest whole number. -/
theorem roundQuotient_eq_of_near {num den q : Nat} (above : 2 * (den * q) < 2 * num + den)
    (below : 2 * num < 2 * (den * q) + den) : roundQuotient num den = q := by
  have positive : 0 < den := by omega
  have error : 2 * (den * roundQuotient num den) ≤ 2 * num + den ∧ _ :=
    roundQuotient_error positive
  rcases Nat.lt_trichotomy (roundQuotient num den) q with less | same | greater
  · have step := Nat.mul_le_mul_left den (Nat.succ_le_of_lt less)
    rw [Nat.mul_succ] at step
    omega
  · exact same
  · have step := Nat.mul_le_mul_left den (Nat.succ_le_of_lt greater)
    rw [Nat.mul_succ] at step
    omega

/-- A tie goes up to an even number. -/
theorem roundQuotient_lt_iff {num half q : Nat} (positive : 0 < half) (even : q % 2 = 0) :
    roundQuotient num (2 * half) < q ↔ num + half < 2 * half * q := by
  have unit : 0 < 2 * half := Nat.mul_pos Nat.two_pos positive
  have error : 2 * (2 * half * roundQuotient num (2 * half)) ≤ 2 * num + 2 * half ∧ _ :=
    roundQuotient_error unit
  constructor
  · intro less
    have between := roundQuotient_between num (2 * half)
    have parts := Nat.div_add_mod num (2 * half)
    have remainder := Nat.mod_lt num unit
    rcases Nat.lt_or_ge (num / (2 * half) + 1) q with far | next
    · have step := Nat.mul_le_mul_left (2 * half) far
      rw [Nat.mul_succ, Nat.mul_succ] at step
      omega
    · have last : q = num / (2 * half) + 1 := by omega
      rw [last, Nat.mul_succ]
      rcases Nat.lt_trichotomy (2 * (num % (2 * half))) (2 * half) with low | tie | high
      · omega
      · rw [roundQuotient_tie tie] at less
        omega
      · rw [roundQuotient_up high] at less
        omega
  · intro below
    refine Nat.lt_of_mul_lt_mul_left (a := 2 * half) ?_
    omega

/-- A quotient without a remainder is not changed. -/
theorem roundQuotient_mul {den : Nat} (positive : 0 < den) (q : Nat) :
    roundQuotient (den * q) den = q :=
  roundQuotient_eq_of_near (Nat.lt_add_of_pos_right positive) (Nat.lt_add_of_pos_right positive)

theorem roundQuotient_one (num : Nat) : roundQuotient num 1 = num := by
  have same := roundQuotient_mul Nat.one_pos num
  rwa [Nat.one_mul] at same

/-- A quotient may be expanded before it is rounded. -/
theorem roundQuotient_mul_mul {num den factor : Nat} (positive : 0 < factor) :
    roundQuotient (num * factor) (den * factor) = roundQuotient num den := by
  have twice : 2 * (num % den * factor) = 2 * (num % den) * factor :=
    (Nat.mul_assoc 2 _ factor).symm
  unfold roundQuotient
  dsimp only
  rw [Nat.mul_div_mul_right num den positive, Nat.mul_mod_mul_right, twice]
  simp only [Nat.mul_lt_mul_right positive, Nat.mul_left_inj (Nat.ne_of_gt positive)]

end Decimal
end BattleMap
