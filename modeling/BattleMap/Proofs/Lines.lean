import BattleMap.Text.Lines

namespace BattleMap
namespace Text

/-!
# Splitting a text into lines

What the first character of a text does to its lines depends on that character alone,
unless it is a carriage return: this one has to see whether a line feed follows.  The
lemmas here say it for each kind of first character, so that proofs about texts go
through the characters one by one and never open the definition.
-/

theorem lines_lineFeed (rest : List Char) : lines ('\n' :: rest) = [] :: lines rest := rfl

theorem lines_pair (rest : List Char) : lines ('\r' :: '\n' :: rest) = [] :: lines rest := rfl

theorem lines_carriageReturn {rest : List Char} (alone : forall behind, rest ≠ '\n' :: behind) :
    lines ('\r' :: rest) = [] :: lines rest := by
  rw [lines.eq_def]
  split
  · contradiction
  · rename_i behind same
    cases same
    exact absurd rfl (alone behind)
  · rename_i same
    cases same
    rfl

theorem lines_cons_of_ne {c : Char} (single : c ≠ '\r') (rest : List Char) :
    lines (c :: rest) =
      if endsLine c then [] :: lines rest
      else (c :: (lines rest).headD []) :: (lines rest).tail := by
  rw [lines.eq_def]
  split
  · contradiction
  · rename_i pair
    cases pair
    exact absurd rfl single
  · rename_i same
    cases same
    cases lines rest <;> rfl

/-- A character that ends no line belongs to the first line of the rest. -/
theorem lines_cons {c : Char} (here : endsLine c = false) (rest : List Char) :
    lines (c :: rest) = (c :: (lines rest).headD []) :: (lines rest).tail := by
  have single : c ≠ '\r' := by
    rintro rfl
    cases here
  rw [lines_cons_of_ne single, if_neg (Bool.eq_false_iff.mp here)]

theorem lines_of_solid {text : List Char} (solid : forall c, c ∈ text -> endsLine c = false)
    (nonempty : text ≠ []) : lines text = [text] := by
  induction text with
  | nil => exact absurd rfl nonempty
  | cons c rest later =>
      rw [lines_cons (solid c List.mem_cons_self)]
      cases rest with
      | nil => rfl
      | cons d others =>
          rw [later (fun e member => solid e (List.mem_cons_of_mem _ member)) (List.cons_ne_nil _ _)]
          rfl

theorem lines_append_of_solid {row : List Char} (solid : forall c, c ∈ row -> endsLine c = false)
    (rest : List Char) : lines (row ++ '\n' :: rest) = row :: lines rest := by
  induction row with
  | nil => rfl
  | cons c others later =>
      rw [List.cons_append, lines_cons (solid c List.mem_cons_self),
        later fun d member => solid d (List.mem_cons_of_mem c member)]
      rfl

/-- Lines that are joined by line feeds are found again, unless the last one is empty. -/
theorem lines_intercalate_of_solid {rows : List (List Char)}
    (solid : forall row, row ∈ rows -> forall c, c ∈ row -> endsLine c = false)
    (visible : forall row, row ∈ rows.getLast? -> row ≠ []) :
    lines (List.intercalate ['\n'] rows) = rows := by
  induction rows with
  | nil => rfl
  | cons row rest later =>
      have here := solid row List.mem_cons_self
      cases rest with
      | nil =>
          rw [List.intercalate_singleton]
          exact lines_of_solid here (visible row rfl)
      | cons next rest =>
          rw [List.getLast?_cons_cons] at visible
          rw [List.intercalate_cons_cons, List.append_assoc, List.singleton_append,
            lines_append_of_solid here,
            later (fun other member => solid other (List.mem_cons_of_mem row member)) visible]

end Text
end BattleMap
