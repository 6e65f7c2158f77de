import BattleMap.Geometry.Loop
import BattleMap.Proofs.PlainTexts
import BattleMap.Proofs.SixDigits
import BattleMap.Scene.Svg

namespace BattleMap

/-!
# Reading paths

A path is a text of commands and numbers with blanks between them: move to a corner, draw
a line to a corner, close the loop.  Here such a text is read as the loops that a pen
draws, with the exact values of the numbers, and the paths of lattice loops are read
back.  They show every corner in its place, and each of its coordinates with six
significant digits.
-/

namespace Svg

/-! ## The pen -/

/-- Loops that a pen has drawn, and the corners of the one that it has begun. -/
structure Pen where
  loops : List (List (Point ℚ))
  corners : Option (List (Point ℚ))

/-- A point from the texts of its coordinates. -/
def readPoint? (x y : List Char) : Option (Point ℚ) := do
  return ⟨← Decimal.exactValue? x, ← Decimal.exactValue? y⟩

/-- Follow the words of a path to its end, where no loop may be left open. -/
def follow? : Pen -> List (List Char) -> Option (List (List (Point ℚ)))
  | ⟨loops, none⟩, [] => some loops
  | ⟨loops, none⟩, ['M'] :: x :: y :: rest => do
      follow? ⟨loops, some [← readPoint? x y]⟩ rest
  | ⟨loops, some corners⟩, ['L'] :: x :: y :: rest => do
      follow? ⟨loops, some (corners ++ [← readPoint? x y])⟩ rest
  | ⟨loops, some corners⟩, ['Z'] :: rest => follow? ⟨loops ++ [corners], none⟩ rest
  | _, _ => none

/-- The loops of a path. -/
def readPath? (path : List Char) : Option (List (List (Point ℚ))) :=
  follow? ⟨[], none⟩ (path.splitOn ' ')

/-! ## Words -/

/-- The text consists of these words, whatever follows behind a blank. -/
structure Consists (text : List Char) (words : List (List Char)) : Prop where
  alone : text.splitOn ' ' = words
  followed : forall rest, (text ++ ' ' :: rest).splitOn ' ' = words ++ rest.splitOn ' '

namespace Consists

theorem word {text : List Char} (plain : ArePlain text) : Consists text [text] where
  alone := List.splitOn_eq_singleton fun member => nomatch plain ' ' member
  followed rest :=
    List.splitOnP_append_cons_of_forall_mem
      (fun c member => beq_false_of_ne fun same => nomatch same ▸ plain c member) ' ' rfl rest

theorem append {text rest : List Char} {words others : List (List Char)}
    (first : Consists text words) (second : Consists rest others) :
    Consists (text ++ ' ' :: rest) (words ++ others) where
  alone := by rw [first.followed, second.alone]
  followed behind := by
    rw [List.append_assoc, List.cons_append, first.followed, second.followed, List.append_assoc]

end Consists

/-- The text leads the pen from one state to another. -/
def Leads (text : List Char) (before after : Pen) : Prop :=
  Exists fun words => Consists text words ∧
    forall others, follow? before (words ++ others) = follow? after others

namespace Leads

theorem append {text rest : List Char} {before between after : Pen}
    (first : Leads text before between) (second : Leads rest between after) :
    Leads (text ++ ' ' :: rest) before after := by
  rcases first with ⟨words, consists, follows⟩
  rcases second with ⟨others, consistsToo, followsToo⟩
  refine ⟨words ++ others, consists.append consistsToo, fun behind => ?_⟩
  rw [List.append_assoc, follows, followsToo]

theorem close (loops : List (List (Point ℚ))) (corners : List (Point ℚ)) :
    Leads ['Z'] ⟨loops, some corners⟩ ⟨loops ++ [corners], none⟩ :=
  ⟨[['Z']], .word (by decide), fun _ => rfl⟩

/-- A text that leads the pen from the start to a state without an open loop is read. -/
theorem readPath?_eq {path : List Char} {loops : List (List (Point ℚ))}
    (leads : Leads path ⟨[], none⟩ ⟨loops, none⟩) : readPath? path = some loops := by
  rcases leads with ⟨words, consists, follows⟩
  have whole := follows []
  rw [List.append_nil] at whole
  unfold readPath?
  rw [consists.alone, whole]
  rfl

end Leads

/-! ## Corners -/

/-- A lattice point as a drawing shows it. -/
def shownPoint (p : Vertex) : Point ℚ :=
  p.map fun n => (Number.shown n : ℚ)

/-- Both coordinates of a point are in the range of binary64. -/
def HasBinary64 (p : Vertex) : Prop :=
  Number.HasBinary64 p.x ∧ Number.HasBinary64 p.y

theorem pointText_of_texts {a b : Number} {x y : String} (first : a.briefText = .ok x)
    (second : b.briefText = .ok y) : pointText ⟨a, b⟩ = .ok (x ++ " " ++ y) := by
  unfold pointText
  rw [first, second]
  rfl

theorem pointText_whole {p : Vertex} (known : HasBinary64 p) :
    Exists fun text => pointText (p.map .whole) = .ok text ∧
      Exists fun x => Exists fun y => text.toList = x ++ ' ' :: y ∧
        (ArePlain x ∧ ArePlain y) ∧ readPoint? x y = some (shownPoint p) := by
  have first := Number.briefText_whole known.1
  have second := Number.briefText_whole known.2
  refine ⟨_, pointText_of_texts first second, _, _, ?_,
    ⟨Number.arePlain_briefText first, Number.arePlain_briefText second⟩, ?_⟩
  · rw [String.toList_append, String.toList_append, List.append_assoc]
    rfl
  · unfold readPoint?
    rw [Number.exactValue?_briefText known.1 first, Number.exactValue?_briefText known.2 second]
    rfl

theorem pointText_whole_of_not_hasBinary64 {p : Vertex} (unknown : ¬ HasBinary64 p) :
    pointText (p.map .whole) = .error .tooLarge := by
  change (do return (← (Number.whole p.x).briefText) ++ " " ++ (← (Number.whole p.y).briefText)) = _
  by_cases first : Number.HasBinary64 p.x
  · have second := Number.briefText_whole_of_not_hasBinary64 fun second => unknown ⟨first, second⟩
    rw [Number.briefText_whole first, second]
    rfl
  · rw [Number.briefText_whole_of_not_hasBinary64 first]
    rfl

/-- Points that are shown alike have the same text. -/
theorem pointText_eq_of_shown {p q : Vertex} (known : HasBinary64 p) (knownOther : HasBinary64 q)
    (same : shownPoint p = shownPoint q) :
    pointText (p.map .whole) = pointText (q.map .whole) := by
  unfold shownPoint Point.map at same
  rw [Point.mk.injEq, Rat.intCast_inj, Rat.intCast_inj] at same
  change (do return (← (Number.whole p.x).briefText) ++ " " ++ (← (Number.whole p.y).briefText)) =
    (do return (← (Number.whole q.x).briefText) ++ " " ++ (← (Number.whole q.y).briefText))
  rw [Number.briefText_eq_of_shown known.1 knownOther.1 same.1,
    Number.briefText_eq_of_shown known.2 knownOther.2 same.2]

/-- A text of a point behind a letter, as words. -/
theorem consists_letter {letter : Char} (plainLetter : isPlain letter = true) {x y : List Char}
    (plain : ArePlain x ∧ ArePlain y) :
    Consists ([letter] ++ ' ' :: (x ++ ' ' :: y)) [[letter], x, y] :=
  (Consists.word (.cons plainLetter .nil)).append ((Consists.word plain.1).append (.word plain.2))

theorem leads_moveTo {x y : List Char} {point : Point ℚ} (plain : ArePlain x ∧ ArePlain y)
    (read : readPoint? x y = some point) (loops : List (List (Point ℚ))) :
    Leads ('M' :: ' ' :: (x ++ ' ' :: y)) ⟨loops, none⟩ ⟨loops, some [point]⟩ := by
  refine ⟨_, consists_letter (by decide) plain, fun others => ?_⟩
  change (do follow? ⟨loops, some [← readPoint? x y]⟩ others) = _
  rw [read]
  rfl

theorem leads_lineTo {x y : List Char} {point : Point ℚ} (plain : ArePlain x ∧ ArePlain y)
    (read : readPoint? x y = some point) (loops : List (List (Point ℚ)))
    (corners : List (Point ℚ)) :
    Leads ('L' :: ' ' :: (x ++ ' ' :: y)) ⟨loops, some corners⟩
      ⟨loops, some (corners ++ [point])⟩ := by
  refine ⟨_, consists_letter (by decide) plain, fun others => ?_⟩
  change (do follow? ⟨loops, some (corners ++ [← readPoint? x y])⟩ others) = _
  rw [read]
  rfl

/-! ## Loops -/

/-- The text of a corner behind the first one. -/
def lineToText (point : Point Number) : Except Fault String := do
  return " L " ++ (← pointText point)

theorem lineToText_of_pointText {point : Point Number} {text : String}
    (written : pointText point = .ok text) : lineToText point = .ok (" L " ++ text) := by
  unfold lineToText
  rw [written]
  rfl

/-- All lines of a loop lead the pen from corner to corner. -/
theorem leads_lines {points : List Vertex} (known : forall p, p ∈ points -> HasBinary64 p) :
    Exists fun texts => (points.map (Point.map .whole)).mapM lineToText = .ok texts ∧
      forall {front before loops corners}, Leads front before ⟨loops, some corners⟩ ->
        Leads (front ++ (String.join texts).toList) before
          ⟨loops, some (corners ++ points.map shownPoint)⟩ := by
  induction points with
  | nil =>
      refine ⟨[], rfl, fun leads => ?_⟩
      rw [List.map_nil, List.append_nil, String.join_nil, String.toList_empty, List.append_nil]
      exact leads
  | cons p rest later =>
      rcases pointText_whole (known p List.mem_cons_self) with
        ⟨text, written, x, y, same, plain, read⟩
      rcases later fun q member => known q (List.mem_cons_of_mem _ member) with
        ⟨texts, lines, behind⟩
      refine ⟨(" L " ++ text) :: texts, ?_, fun {front before loops corners} leads => ?_⟩
      · rw [List.map_cons, List.mapM_cons, lineToText_of_pointText written, lines]
        rfl
      · have onward := behind (leads.append (leads_lineTo plain read loops corners))
        rw [String.join_cons, String.toList_append, String.toList_append, same]
        rw [List.append_assoc front, List.append_assoc corners] at onward
        exact onward

theorem mapM_lineToText_eq_error {points : List Vertex} {p : Vertex} (member : p ∈ points)
    (unknown : ¬ HasBinary64 p) :
    (points.map (Point.map .whole)).mapM lineToText = .error .tooLarge := by
  have failing : forall {q}, ¬ HasBinary64 q -> lineToText (q.map .whole) = .error .tooLarge := by
    intro q unknown
    unfold lineToText
    rw [pointText_whole_of_not_hasBinary64 unknown]
    rfl
  refine Outcome.mapM_eq_error ?_ (List.mem_map_of_mem member) (failing unknown)
  intro item listed
  rcases List.mem_map.mp listed with ⟨q, _, rfl⟩
  by_cases known : HasBinary64 q
  · rcases pointText_whole known with ⟨text, written, _⟩
    exact .inl ⟨_, lineToText_of_pointText written⟩
  · exact .inr (failing known)

theorem pathText_cons (first : Point Number) (rest : List (Point Number)) :
    pathText (first :: rest) = (do
      let others ← rest.mapM lineToText
      return "M " ++ (← pointText first) ++ String.join others ++ " Z") :=
  rfl

/-- The path of a loop leads the pen once around it. -/
theorem leads_pathText {points : List Vertex} (nonempty : points ≠ [])
    (known : forall p, p ∈ points -> HasBinary64 p) :
    Exists fun text => pathText (points.map (Point.map .whole)) = .ok text ∧
      forall loops, Leads text.toList ⟨loops, none⟩ ⟨loops ++ [points.map shownPoint], none⟩ := by
  rcases points with _ | ⟨first, rest⟩
  · exact absurd rfl nonempty
  · rcases pointText_whole (known first List.mem_cons_self) with
      ⟨text, written, x, y, same, plain, read⟩
    rcases leads_lines fun q member => known q (List.mem_cons_of_mem _ member) with
      ⟨texts, drawn, behind⟩
    refine ⟨"M " ++ text ++ String.join texts ++ " Z", ?_, fun loops => ?_⟩
    · rw [List.map_cons, pathText_cons, drawn, written]
      rfl
    · have closed := (behind (leads_moveTo plain read loops)).append (.close loops _)
      rw [String.toList_append, String.toList_append, String.toList_append, same]
      exact closed

/-- A corner out of range keeps the path from being written. -/
theorem pathText_eq_error {points : List Vertex} {p : Vertex} (member : p ∈ points)
    (unknown : ¬ HasBinary64 p) :
    pathText (points.map (Point.map .whole)) = .error .tooLarge := by
  rcases points with _ | ⟨first, rest⟩
  · cases member
  · rw [List.map_cons, pathText_cons]
    by_cases known : forall q, q ∈ rest -> HasBinary64 q
    · rcases List.mem_cons.mp member with rfl | behind
      · rcases leads_lines known with ⟨texts, drawn, _⟩
        rw [drawn, pointText_whole_of_not_hasBinary64 unknown]
        rfl
      · exact absurd (known p behind) unknown
    · rcases Classical.not_forall.mp known with ⟨q, known⟩
      rcases Classical.not_imp.mp known with ⟨behind, unknown⟩
      rw [mapM_lineToText_eq_error behind unknown]
      rfl

/-! ## Exact corners -/

/-- A lattice point with its exact coordinates. -/
def exactPoint (p : Vertex) : Point ℚ :=
  p.map fun n : Int => (n : ℚ)

/-- A coordinate can be written, and has no more than six significant digits. -/
def IsShort (n : Int) : Prop :=
  Number.HasBinary64 n ∧ Decimal.HasSixDigits n.natAbs

/-- Both coordinates of a point are short. -/
def IsShortPoint (p : Vertex) : Prop :=
  IsShort p.x ∧ IsShort p.y

theorem shownPoint_eq_iff {p : Vertex} :
    shownPoint p = exactPoint p ↔
      Decimal.HasSixDigits p.x.natAbs ∧ Decimal.HasSixDigits p.y.natAbs := by
  unfold shownPoint exactPoint Point.map
  rw [Point.mk.injEq, Rat.intCast_inj, Rat.intCast_inj, Number.shown_eq_iff, Number.shown_eq_iff]

theorem exactPoint_injective : Function.Injective exactPoint := by
  intro p q same
  unfold exactPoint Point.map at same
  rw [Point.mk.injEq, Rat.intCast_inj, Rat.intCast_inj] at same
  cases p
  cases q
  rw [Point.mk.injEq]
  exact same

/-- A path that can be written is read back as it is shown. -/
theorem readPath?_pathText {points : List Vertex} (nonempty : points ≠ [])
    (known : forall p, p ∈ points -> HasBinary64 p) :
    Exists fun text => pathText (points.map (Point.map .whole)) = .ok text ∧
      readPath? text.toList = some [points.map shownPoint] := by
  rcases leads_pathText nonempty known with ⟨text, written, leads⟩
  exact ⟨text, written, (leads []).readPath?_eq⟩

theorem hasBinary64_of_pathText {points : List Vertex} {text : String}
    (written : pathText (points.map (Point.map .whole)) = .ok text) :
    forall p, p ∈ points -> HasBinary64 p := by
  intro p member
  by_contra unknown
  cases written.symm.trans (pathText_eq_error member unknown)

theorem readPath?_of_pathText {points : List Vertex} {text : String} (nonempty : points ≠ [])
    (written : pathText (points.map (Point.map .whole)) = .ok text) :
    readPath? text.toList = some [points.map shownPoint] := by
  rcases readPath?_pathText nonempty (hasBinary64_of_pathText written) with ⟨same, again, read⟩
  cases written.symm.trans again
  exact read

/-! ## What a path tells -/

/-- The path of the points can be written, and shows them in order and nothing else. -/
def ReadsBack (points : List Vertex) : Prop :=
  Exists fun text => pathText (points.map (Point.map .whole)) = .ok text ∧
    readPath? text.toList = some [points.map exactPoint]

theorem map_shownPoint_eq_iff {points : List Vertex} :
    points.map shownPoint = points.map exactPoint ↔ forall p, p ∈ points ->
      Decimal.HasSixDigits p.x.natAbs ∧ Decimal.HasSixDigits p.y.natAbs := by
  simp only [List.map_inj_left, shownPoint_eq_iff]

/-- A path shows its points if and only if their coordinates are short. -/
theorem readsBack_iff {points : List Vertex} (nonempty : points ≠ []) :
    ReadsBack points ↔ forall p, p ∈ points -> IsShortPoint p := by
  constructor
  · rintro ⟨text, written, read⟩ p member
    have known := hasBinary64_of_pathText written
    have shown := (readPath?_of_pathText nonempty written).symm.trans read
    have exact := List.head_eq_of_cons_eq (Option.some_inj.mp shown)
    have six := map_shownPoint_eq_iff.mp exact p member
    exact ⟨⟨(known p member).1, six.1⟩, (known p member).2, six.2⟩
  · intro short
    have known : forall p, p ∈ points -> HasBinary64 p := fun p member =>
      ⟨(short p member).1.1, (short p member).2.1⟩
    rcases readPath?_pathText nonempty known with ⟨text, written, shown⟩
    rw [map_shownPoint_eq_iff.mpr fun p member => ⟨(short p member).1.2, (short p member).2.2⟩]
      at shown
    exact ⟨text, written, shown⟩

theorem mapM_lineToText_eq_of_shown {points others : List Vertex}
    (known : forall p, p ∈ points -> HasBinary64 p)
    (knownOther : forall p, p ∈ others -> HasBinary64 p)
    (same : points.map shownPoint = others.map shownPoint) :
    (points.map (Point.map .whole)).mapM lineToText =
      (others.map (Point.map .whole)).mapM lineToText := by
  induction points generalizing others with
  | nil => rw [List.map_eq_nil_iff.mp same.symm]
  | cons p rest later =>
      rcases others with _ | ⟨q, behind⟩
      · cases same
      · have first := pointText_eq_of_shown (known p List.mem_cons_self)
          (knownOther q List.mem_cons_self) (List.head_eq_of_cons_eq same)
        have onward := later (fun v member => known v (List.mem_cons_of_mem _ member))
          (fun v member => knownOther v (List.mem_cons_of_mem _ member))
          (List.tail_eq_of_cons_eq same)
        rw [List.map_cons, List.map_cons, List.mapM_cons, List.mapM_cons, onward]
        unfold lineToText
        rw [first]

/-- Two loops have the same path if and only if they are shown alike. -/
theorem pathText_eq_iff {points others : List Vertex} (nonempty : points ≠ [])
    (nonemptyOther : others ≠ []) (known : forall p, p ∈ points -> HasBinary64 p)
    (knownOther : forall p, p ∈ others -> HasBinary64 p) :
    pathText (points.map (Point.map .whole)) = pathText (others.map (Point.map .whole)) ↔
      points.map shownPoint = others.map shownPoint := by
  constructor
  · intro same
    rcases readPath?_pathText nonempty known with ⟨text, written, read⟩
    have other := readPath?_of_pathText nonemptyOther (same.symm.trans written)
    exact List.head_eq_of_cons_eq (Option.some_inj.mp (read.symm.trans other))
  · intro same
    rcases points with _ | ⟨p, rest⟩
    · exact absurd rfl nonempty
    · rcases others with _ | ⟨q, behind⟩
      · exact absurd rfl nonemptyOther
      · rw [List.map_cons, List.map_cons, pathText_cons, pathText_cons,
          pointText_eq_of_shown (known p List.mem_cons_self) (knownOther q List.mem_cons_self)
            (List.head_eq_of_cons_eq same),
          mapM_lineToText_eq_of_shown (fun v member => known v (List.mem_cons_of_mem _ member))
            (fun v member => knownOther v (List.mem_cons_of_mem _ member))
            (List.tail_eq_of_cons_eq same)]

end Svg
end BattleMap
