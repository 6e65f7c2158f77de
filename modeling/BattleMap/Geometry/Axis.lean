namespace BattleMap

/-!
# Ranges on an axis

Rectangles and loops select ranges of rows and columns of a grid.  A bound below
zero counts from the far end of the axis, so minus one is the last place, and
bounds that lie off the axis are moved to its ends.  For ranges that start on
the axis this is the plain half-open range, cut off at the far end.
-/

namespace Axis

/-- Where a bound lies on an axis of the given length. -/
def place (length : Nat) (bound : Int) : Nat :=
  min length (if bound < 0 then bound + length else bound).toNat

/-- The places of an axis from `low` on and before `high`. -/
structure Span where
  low : Nat
  high : Nat
deriving DecidableEq, Repr

/-- The places that a half-open range selects. -/
def span (length : Nat) (low high : Int) : Span :=
  ⟨place length low, place length high⟩

def Span.contains (span : Span) (i : Nat) : Bool :=
  span.low ≤ i && i < span.high

def Span.places (span : Span) : List Nat :=
  List.range' span.low (span.high - span.low)

theorem Span.mem_places {span : Span} {i : Nat} : i ∈ span.places ↔ span.contains i = true := by
  simp only [places, contains, List.mem_range'_1, Bool.and_eq_true, decide_eq_true_eq]
  omega

theorem Span.nodup_places (span : Span) : span.places.Nodup :=
  List.nodup_range'

theorem place_of_nonneg {length : Nat} {bound : Int} (nonneg : 0 ≤ bound) :
    place length bound = min length bound.toNat := by
  unfold place
  rw [if_neg (by omega)]

theorem contains_span_of_nonneg {length : Nat} {low high : Int} {i : Nat} (onAxis : i < length)
    (lowBound : 0 ≤ low) (highBound : 0 ≤ high) :
    (span length low high).contains i = decide (low ≤ i ∧ (i : Int) < high) := by
  rw [Bool.eq_iff_iff]
  simp only [Span.contains, span, place_of_nonneg lowBound, place_of_nonneg highBound,
    Bool.and_eq_true, decide_eq_true_eq]
  omega

end Axis
end BattleMap
