import BattleMap.Number
import BattleMap.Proofs.Outcome
import BattleMap.Text.Lines

namespace BattleMap

/-!
# Characters of a number

A drawing is taken apart at its line ends, its quotation marks and its blanks.  That
finds the numbers again because none of these characters is part of a number, be it
finite, infinite or undefined.
-/

/-- The character neither ends a line nor closes a text, and separates nothing. -/
def isPlain (c : Char) : Bool :=
  c ≠ ' ' && c ≠ '"' && !Text.endsLine c

theorem isPlain_iff {c : Char} :
    isPlain c = true ↔ (c ≠ ' ' ∧ c ≠ '"') ∧ Text.endsLine c = false := by
  unfold isPlain
  rw [Bool.and_eq_true, Bool.and_eq_true, decide_eq_true_iff, decide_eq_true_iff,
    Bool.not_eq_true']

/-- All characters of a text are plain. -/
def ArePlain (text : List Char) : Prop :=
  forall c, c ∈ text -> isPlain c = true

instance : DecidablePred ArePlain :=
  fun text => List.decidableBAll (fun c => isPlain c = true) text

namespace ArePlain

variable {text rest : List Char}

theorem nil : ArePlain [] := fun _ member => nomatch member

theorem append (first : ArePlain text) (second : ArePlain rest) : ArePlain (text ++ rest) :=
  List.forall_mem_append.mpr ⟨first, second⟩

theorem cons {c : Char} (first : isPlain c = true) (second : ArePlain rest) :
    ArePlain (c :: rest) :=
  List.forall_mem_cons.mpr ⟨first, second⟩

theorem sublist (all : ArePlain text) (part : rest.Sublist text) : ArePlain rest :=
  fun c member => all c (part.subset member)

end ArePlain

theorem isPlain_of_isDigit {c : Char} (digit : c.isDigit = true) : isPlain c = true := by
  have different : forall d : Char, d.isDigit = false -> c ≠ d := by
    rintro d other rfl
    exact Bool.false_ne_true (other.symm.trans digit)
  refine isPlain_iff.mpr ⟨⟨different ' ' (by decide), different '"' (by decide)⟩, ?_⟩
  simp only [Text.endsLine, Bool.or_eq_false_iff, decide_eq_false_iff_not]
  refine ⟨⟨⟨⟨⟨⟨⟨⟨⟨?_, ?_⟩, ?_⟩, ?_⟩, ?_⟩, ?_⟩, ?_⟩, ?_⟩, ?_⟩, ?_⟩ <;> exact different _ (by decide)

namespace Decimal

theorem arePlain_digits (n : Nat) : ArePlain (digits n) :=
  fun _ member => isPlain_of_isDigit (isDigit_of_mem_digits member)

theorem arePlain_zeros (count : Nat) : ArePlain (List.replicate count '0') := by
  intro c member
  rw [List.eq_of_mem_replicate member]
  decide

theorem arePlain_exponentText (exponent : Int) : ArePlain (exponentText exponent) := by
  have figures := arePlain_digits exponent.natAbs
  unfold exponentText
  refine .cons (by split <;> decide) ?_
  split
  · exact .cons (by decide) figures
  · exact figures

theorem arePlain_layOut (form : Layout) {significant : List Char} (all : ArePlain significant)
    (exponent : Int) : ArePlain (form.layOut significant exponent) := by
  have front := fun count => all.sublist (List.take_sublist count significant)
  have back := fun count => all.sublist (List.drop_sublist count significant)
  unfold Layout.layOut
  split
  · split
    · exact .cons (by decide) (.cons (by decide) ((arePlain_zeros _).append all))
    · have whole := (front (exponent.toNat + 1)).append
        (arePlain_zeros (exponent.toNat + 1 - significant.length))
      dsimp only
      split
      · split
        · exact whole.append (.cons (by decide) (.cons (by decide) .nil))
        · exact whole
      · exact whole.append (.cons (by decide) (back _))
  · refine ((front 1).append ?_).append (.cons (by decide) (arePlain_exponentText exponent))
    split
    · exact .nil
    · exact .cons (by decide) (back 1)

theorem withoutTrailingZeros_sublist (text : List Char) :
    (withoutTrailingZeros text).Sublist text := by
  have shorter := (List.dropWhile_sublist (· = '0') (l := text.reverse)).reverse
  rwa [List.reverse_reverse] at shorter

theorem arePlain_write (form : Layout) (number : Scaled) : ArePlain (form.write number) :=
  arePlain_layOut form ((arePlain_digits number.coefficient).sublist
    (withoutTrailingZeros_sublist _)) _

end Decimal

namespace Binary64

theorem arePlain_withSign (negative : Bool) {text : List Char} (plain : ArePlain text) :
    ArePlain (withSign negative text).toList := by
  unfold withSign
  rw [String.toList_ofList]
  cases negative with
  | false => exact plain
  | true => exact .cons (by decide) plain

theorem arePlain_briefText (value : Binary64) : ArePlain value.briefText.toList := by
  rcases value with ⟨negative, mantissa, exponent⟩ | ⟨negative⟩ | _
  · refine arePlain_withSign negative ?_
    split
    · exact Decimal.arePlain_zeros 1
    · exact Decimal.arePlain_write _ _
  · exact arePlain_withSign negative (by decide)
  · decide

end Binary64

/-- Whatever a number is, its text is plain. -/
theorem Number.arePlain_briefText {a : Number} {text : String} (shown : a.briefText = .ok text) :
    ArePlain text.toList := by
  rcases Outcome.bind_eq_ok.mp shown with ⟨value, _, same⟩
  cases same
  exact value.arePlain_briefText

end BattleMap
