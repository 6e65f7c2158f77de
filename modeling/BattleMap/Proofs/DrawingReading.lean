import Mathlib.Data.List.Infix
import BattleMap.Proofs.CanonicalForm
import BattleMap.Proofs.Compilation
import BattleMap.Proofs.Lines
import BattleMap.Proofs.PathReading

namespace BattleMap

/-!
# Reading drawings

A drawing has one element on each line.  The loops of a floor plan are the data of its
only path with the non-zero rule; the paths of segments have no rule.  So the data is
found again, and with it the loops, each of their coordinates as it is shown.
-/

namespace Svg

/-- The beginning of a path. -/
def pathStart : List Char := ['<', 'p', 'a', 't', 'h', ' ', 'd', '=', '"']

/-- The attribute by which the path of the loops is known. -/
def nonzeroRule : List Char :=
  ['f', 'i', 'l', 'l', '-', 'r', 'u', 'l', 'e', '=', '"', 'n', 'o', 'n', 'z', 'e', 'r', 'o', '"']

/-- The data of a path with the non-zero rule. -/
def outlineData? (line : List Char) : Option (List Char) :=
  let behind := line.drop pathStart.length
  if pathStart <+: line ∧ nonzeroRule <:+: behind.dropWhile (· ≠ '"') then
    some (behind.takeWhile (· ≠ '"'))
  else none

/-- The data of the path of the loops, if the drawing has one. -/
def pathData? (drawing : List Char) : Option (List Char) :=
  (Text.lines drawing).findSome? outlineData?

/-- The loops of a drawing. -/
def readLoops? (drawing : List Char) : Option (List (List (Point ℚ))) :=
  (pathData? drawing).elim (some []) readPath?

/-! ## Elements -/

theorem toList_attributes_cons (pair : String × String) (rest : List (String × String)) :
    (attributes (pair :: rest)).toList =
      ' ' :: (pair.1.toList ++ '=' :: '"' :: (pair.2.toList ++ '"' :: (attributes rest).toList)) := by
  unfold attributes
  rw [List.map_cons, String.join_cons]
  simp only [String.toList_append, List.append_assoc]
  rfl

theorem toList_element (name : String) (pairs : List (String × String)) :
    (element name pairs).toList =
      '<' :: (name.toList ++ ((attributes pairs).toList ++ ['/', '>'])) := by
  unfold element
  simp only [String.toList_append, List.append_assoc]
  rfl

theorem outlineData?_of_ne {c : Char} (other : c ≠ 'p') (rest : List Char) :
    outlineData? ('<' :: c :: rest) = none := by
  refine if_neg fun found => ?_
  rcases found.1 with ⟨tail, same⟩
  exact other (List.cons.inj (List.cons.inj same).2).1.symm

/-- The data of a path ends at its quotation mark. -/
theorem outlineData?_path {path : String} (unquoted : forall c, c ∈ path.toList -> c ≠ '"')
    (rest : List (String × String)) :
    outlineData? (element "path" (("d", path) :: rest)).toList =
      if nonzeroRule <:+: '"' :: ((attributes rest).toList ++ ['/', '>']) then some path.toList
      else none := by
  have split : (element "path" (("d", path) :: rest)).toList =
      pathStart ++ (path.toList ++ '"' :: ((attributes rest).toList ++ ['/', '>'])) := by
    rw [toList_element, toList_attributes_cons]
    simp only [List.append_assoc, List.cons_append]
    rfl
  have inside : forall c, c ∈ path.toList -> decide (c ≠ '"') = true :=
    fun c member => decide_eq_true (unquoted c member)
  have stops : forall c, c ∈ ('"' :: ((attributes rest).toList ++ ['/', '>'])).head? ->
      decide (c ≠ '"') = false := by
    rintro c ⟨⟩
    decide
  unfold outlineData?
  rw [split, List.drop_left]
  dsimp only
  rw [Token.takeWhile_run inside stops, Token.dropWhile_run inside stops]
  simp only [List.prefix_append, true_and]

/-! ## Lines -/

/-- No character of the text ends a line. -/
def IsUnbroken (text : List Char) : Prop :=
  forall c, c ∈ text -> Text.endsLine c = false

instance : DecidablePred IsUnbroken :=
  fun text => List.decidableBAll (fun c => Text.endsLine c = false) text

namespace IsUnbroken

theorem append {text rest : List Char} (first : IsUnbroken text) (second : IsUnbroken rest) :
    IsUnbroken (text ++ rest) :=
  List.forall_mem_append.mpr ⟨first, second⟩

theorem cons {c : Char} {rest : List Char} (first : Text.endsLine c = false)
    (second : IsUnbroken rest) : IsUnbroken (c :: rest) :=
  List.forall_mem_cons.mpr ⟨first, second⟩

end IsUnbroken

/-- No attribute has a line end in its name or its text. -/
def AreUnbroken (pairs : List (String × String)) : Prop :=
  forall pair, pair ∈ pairs -> IsUnbroken pair.1.toList ∧ IsUnbroken pair.2.toList

theorem AreUnbroken.cons {name value : String} {pairs : List (String × String)}
    (solidName : IsUnbroken name.toList) (solidValue : IsUnbroken value.toList)
    (others : AreUnbroken pairs) : AreUnbroken ((name, value) :: pairs) :=
  List.forall_mem_cons.mpr ⟨⟨solidName, solidValue⟩, others⟩

instance : DecidablePred AreUnbroken :=
  fun pairs => List.decidableBAll
    (fun pair : String × String => IsUnbroken pair.1.toList ∧ IsUnbroken pair.2.toList) pairs

theorem isUnbroken_attributes {pairs : List (String × String)} (all : AreUnbroken pairs) :
    IsUnbroken (attributes pairs).toList := by
  induction pairs with
  | nil => exact fun _ member => nomatch member
  | cons pair rest later =>
      have first := all pair List.mem_cons_self
      rw [toList_attributes_cons]
      exact .cons rfl (first.1.append (.cons rfl (.cons rfl (first.2.append (.cons rfl
        (later fun other member => all other (List.mem_cons_of_mem _ member)))))))

theorem isUnbroken_element {name : String} {pairs : List (String × String)}
    (solid : IsUnbroken name.toList) (all : AreUnbroken pairs) :
    IsUnbroken (element name pairs).toList := by
  rw [toList_element]
  exact .cons rfl (solid.append ((isUnbroken_attributes all).append (by decide)))

/-! ## Texts in elements -/

/-- Neither a line nor a text ends within the text. -/
def IsInline (text : List Char) : Prop :=
  forall c, c ∈ text -> c ≠ '"' ∧ Text.endsLine c = false

instance : DecidablePred IsInline :=
  fun text => List.decidableBAll (fun c => c ≠ '"' ∧ Text.endsLine c = false) text

theorem IsInline.isUnbroken {text : List Char} (inline : IsInline text) : IsUnbroken text :=
  fun c member => (inline c member).2

theorem IsInline.append {text rest : List Char} (first : IsInline text) (second : IsInline rest) :
    IsInline (text ++ rest) :=
  List.forall_mem_append.mpr ⟨first, second⟩

theorem isInline_briefText {a : Number} {text : String} (written : a.briefText = .ok text) :
    IsInline text.toList := by
  intro c member
  have plain := isPlain_iff.mp (Number.arePlain_briefText written c member)
  exact ⟨plain.1.2, plain.2⟩

theorem isInline_pointText {point : Point Number} {text : String}
    (written : pointText point = .ok text) : IsInline text.toList := by
  rcases Outcome.bind_eq_ok.mp written with ⟨x, first, written⟩
  rcases Outcome.bind_eq_ok.mp written with ⟨y, second, same⟩
  cases same
  rw [String.toList_append, String.toList_append]
  exact ((isInline_briefText first).append (by decide)).append (isInline_briefText second)

theorem isInline_join {texts : List String}
    (all : forall text, text ∈ texts -> IsInline text.toList) :
    IsInline (String.join texts).toList := by
  intro c member
  rw [String.toList_join] at member
  rcases List.mem_flatMap.mp member with ⟨text, listed, within⟩
  exact all text listed c within

theorem isInline_pathText {points : List (Point Number)} {text : String}
    (written : pathText points = .ok text) : IsInline text.toList := by
  rcases points with _ | ⟨first, rest⟩
  · cases written
    decide
  · rw [pathText_cons] at written
    rcases Outcome.bind_eq_ok.mp written with ⟨others, lines, written⟩
    rcases Outcome.bind_eq_ok.mp written with ⟨start, moved, same⟩
    cases same
    have behind : forall other, other ∈ others -> IsInline other.toList := by
      intro other listed
      rcases Outcome.exists_of_mem_mapM lines listed with ⟨point, _, drawn⟩
      rcases Outcome.bind_eq_ok.mp drawn with ⟨text, shown, same⟩
      cases same
      rw [String.toList_append]
      exact IsInline.append (by decide) (isInline_pointText shown)
    rw [String.toList_append, String.toList_append, String.toList_append]
    exact ((IsInline.append (by decide) (isInline_pointText moved)).append
      (isInline_join behind)).append (by decide)

theorem toList_intercalate_cons (separator first second : String) (rest : List String) :
    (separator.intercalate (first :: second :: rest)).toList =
      first.toList ++ (separator.toList ++ (separator.intercalate (second :: rest)).toList) := by
  rw [String.toList_intercalate, List.map_cons, List.map_cons, List.intercalate_cons_cons,
    String.toList_intercalate, List.append_assoc]
  rfl

theorem toList_intercalate_singleton (separator text : String) :
    (separator.intercalate [text]).toList = text.toList := by
  rw [String.toList_intercalate, List.map_singleton, List.intercalate_singleton]

theorem isInline_intercalate {texts : List String}
    (all : forall text, text ∈ texts -> IsInline text.toList) :
    IsInline (String.intercalate " " texts).toList := by
  induction texts with
  | nil => decide
  | cons first rest later =>
      have behind := later fun text listed => all text (List.mem_cons_of_mem _ listed)
      cases rest with
      | nil =>
          rw [toList_intercalate_singleton]
          exact all first List.mem_cons_self
      | cons second others =>
          rw [toList_intercalate_cons]
          exact (all first List.mem_cons_self).append (IsInline.append (by decide) behind)

/-! ## Lines without the outline -/

/-- A line of a drawing that is not the path of the loops. -/
structure IsAside (row : String) : Prop where
  solid : IsUnbroken row.toList
  passed : outlineData? row.toList = none

/-- Only the elements of paths begin with the letter of a path. -/
theorem isAside_element {name : String} {c : Char} {letters : List Char}
    (spelled : name.toList = c :: letters) (other : c ≠ 'p') (solid : IsUnbroken name.toList)
    {pairs : List (String × String)} (all : AreUnbroken pairs) : IsAside (element name pairs) where
  solid := isUnbroken_element solid all
  passed := by
    rw [toList_element, spelled]
    exact outlineData?_of_ne other _

theorem isAside_rect {pairs : List (String × String)} (all : AreUnbroken pairs) :
    IsAside (element "rect" pairs) :=
  isAside_element (c := 'r') rfl (by decide) (by decide) all

theorem isAside_circle {pairs : List (String × String)} (all : AreUnbroken pairs) :
    IsAside (element "circle" pairs) :=
  isAside_element (c := 'c') rfl (by decide) (by decide) all

theorem isAside_disc {circle : Disc} {row : String} (drawn : disc circle = .ok row) :
    IsAside row := by
  rcases Outcome.bind_eq_ok.mp drawn with ⟨x, first, drawn⟩
  rcases Outcome.bind_eq_ok.mp drawn with ⟨y, second, drawn⟩
  rcases Outcome.bind_eq_ok.mp drawn with ⟨radius, third, same⟩
  cases same
  exact isAside_circle (.cons (by decide) (isInline_briefText first).isUnbroken
    (.cons (by decide) (isInline_briefText second).isUnbroken
      (.cons (by decide) (isInline_briefText third).isUnbroken (by decide))))

theorem isAside_tile {square : Tile} {row : String} (drawn : tile square = .ok row) :
    IsAside row := by
  rcases Outcome.bind_eq_ok.mp drawn with ⟨side, first, drawn⟩
  rcases Outcome.bind_eq_ok.mp drawn with ⟨x, second, drawn⟩
  rcases Outcome.bind_eq_ok.mp drawn with ⟨y, third, same⟩
  cases same
  have size := (isInline_briefText first).isUnbroken
  exact isAside_rect (.cons (by decide) (isInline_briefText second).isUnbroken
    (.cons (by decide) (isInline_briefText third).isUnbroken
      (.cons (by decide) size (.cons (by decide) size (by decide)))))

/-- The path of a segment has no rule. -/
theorem isAside_segment {line : Segment} {row : String} (drawn : segment line = .ok row) :
    IsAside row := by
  rcases Outcome.bind_eq_ok.mp drawn with ⟨start, first, drawn⟩
  rcases Outcome.bind_eq_ok.mp drawn with ⟨finish, second, same⟩
  cases same
  have inline : IsInline ("M " ++ start ++ " L " ++ finish).toList := by
    rw [String.toList_append, String.toList_append, String.toList_append]
    exact ((IsInline.append (by decide) (isInline_pointText first)).append (by decide)).append
      (isInline_pointText second)
  refine ⟨isUnbroken_element (by decide) (.cons (by decide) inline.isUnbroken (by decide)), ?_⟩
  rw [outlineData?_path fun c member => (inline c member).1]
  exact if_neg (by decide)

theorem isAside_gridCells {scene : Scene} {cells : List String} (drawn : gridCells scene = .ok cells)
    {row : String} (listed : row ∈ cells) : IsAside row := by
  have starts : forall {count texts text}, cellStarts scene count = .ok texts -> text ∈ texts ->
      IsUnbroken text.toList := by
    intro count texts text found member
    rcases Outcome.exists_of_mem_mapM found member with ⟨_, _, written⟩
    rcases Outcome.bind_eq_ok.mp written with ⟨_, _, written⟩
    exact (isInline_briefText written).isUnbroken
  rcases Outcome.bind_eq_ok.mp drawn with ⟨size, first, drawn⟩
  rcases Outcome.bind_eq_ok.mp drawn with ⟨rows, second, drawn⟩
  rcases Outcome.bind_eq_ok.mp drawn with ⟨columns, third, same⟩
  cases same
  rcases List.mem_flatMap.mp listed with ⟨y, rowListed, inRow⟩
  rcases List.mem_map.mp inRow with ⟨x, columnListed, rfl⟩
  have side := (isInline_briefText first).isUnbroken
  exact isAside_rect (.cons (by decide) (starts third columnListed) (.cons (by decide)
    (starts second rowListed) (.cons (by decide) side (.cons (by decide) side (by decide)))))

theorem isAside_openingTag {scene : Scene} {row : String} (drawn : openingTag scene = .ok row) :
    IsAside row := by
  rcases Outcome.bind_eq_ok.mp drawn with ⟨_, _, drawn⟩
  rcases Outcome.bind_eq_ok.mp drawn with ⟨width, first, drawn⟩
  rcases Outcome.bind_eq_ok.mp drawn with ⟨_, _, drawn⟩
  rcases Outcome.bind_eq_ok.mp drawn with ⟨height, second, same⟩
  cases same
  have wide := (isInline_briefText first).isUnbroken
  have high := (isInline_briefText second).isUnbroken
  have box : IsUnbroken ("0 0 " ++ width ++ " " ++ height).toList := by
    rw [String.toList_append, String.toList_append, String.toList_append]
    exact ((IsUnbroken.append (by decide) wide).append (by decide)).append high
  have all : AreUnbroken [("version", "1.1"), ("xmlns", "http://www.w3.org/2000/svg"),
      ("width", width), ("height", height), ("viewBox", "0 0 " ++ width ++ " " ++ height)] :=
    .cons (by decide) (by decide) (.cons (by decide) (by decide) (.cons (by decide) wide
      (.cons (by decide) high (.cons (by decide) box (by decide)))))
  refine ⟨?_, ?_⟩
  · rw [String.toList_append, String.toList_append]
    exact (IsUnbroken.append (by decide) (isUnbroken_attributes all)).append (by decide)
  · rw [String.toList_append, String.toList_append]
    exact outlineData?_of_ne (c := 's') (by decide) _

theorem isAside_closingTag : IsAside "</svg>" :=
  ⟨by decide, outlineData?_of_ne (c := '/') (by decide) _⟩

/-! ## The outline -/

/-- All corners of a loop are in the range of binary64. -/
def KnowsCorners (loop : Loop Int) : Prop :=
  forall p, p ∈ loop.points -> HasBinary64 p

/-- The corners of a loop as a drawing shows them. -/
def shownLoop (loop : Loop Int) : List (Point ℚ) :=
  loop.points.map shownPoint

/-- The paths of several loops lead the pen around each of them. -/
theorem leads_intercalate {loops : List (Loop Int)} (nonempty : loops ≠ [])
    (corners : forall loop, loop ∈ loops -> loop.points ≠ [])
    (known : forall loop, loop ∈ loops -> KnowsCorners loop) {paths : List String}
    (written : loops.mapM (fun loop => pathText loop.toNumbers.points) = .ok paths)
    (before : List (List (Point ℚ))) :
    Leads (String.intercalate " " paths).toList ⟨before, none⟩
      ⟨before ++ loops.map shownLoop, none⟩ := by
  induction loops generalizing paths before with
  | nil => exact absurd rfl nonempty
  | cons first rest later =>
      rcases leads_pathText (corners first List.mem_cons_self) (known first List.mem_cons_self) with
        ⟨path, drawn, leads⟩
      rw [List.mapM_cons] at written
      rcases Outcome.bind_eq_ok.mp written with ⟨same, here, written⟩
      rcases Outcome.bind_eq_ok.mp written with ⟨others, behind, done⟩
      cases here.symm.trans drawn
      cases done
      rcases rest with _ | ⟨second, further⟩
      · rw [List.mapM_nil] at behind
        cases behind
        rw [toList_intercalate_singleton]
        exact leads before
      · have onward := later (List.cons_ne_nil _ _)
          (fun loop member => corners loop (List.mem_cons_of_mem _ member))
          (fun loop member => known loop (List.mem_cons_of_mem _ member)) behind
          (before ++ [shownLoop first])
        rcases others with _ | ⟨next, farther⟩
        · rw [List.mapM_cons] at behind
          rcases Outcome.bind_eq_ok.mp behind with ⟨_, _, behind⟩
          rcases Outcome.bind_eq_ok.mp behind with ⟨_, _, impossible⟩
          cases impossible
        · have both := (leads before).append onward
          rw [List.append_assoc] at both
          rw [toList_intercalate_cons]
          exact both

/-- The attributes of the path of the loops behind its data. -/
def outlineAttributes : List (String × String) :=
  [("fill", "none"), ("fill-rule", "nonzero"), ("stroke", stroke), ("stroke-width", "1")]

/-- What the rows of an outline show. -/
def rowsShow (rows : List String) : Option (List (List (Point ℚ))) :=
  (rows.findSome? fun row => outlineData? row.toList).elim (some []) readPath?

/-- The outline shows its loops. -/
theorem outline_spec {loops : List (Loop Int)} {rows : List String}
    (corners : forall loop, loop ∈ loops -> loop.points ≠ [])
    (drawn : outline (loops.map Loop.toNumbers) = .ok rows) :
    (forall loop, loop ∈ loops -> KnowsCorners loop) ∧
      (forall row, row ∈ rows -> IsUnbroken row.toList) ∧
        rowsShow rows = some (loops.map shownLoop) := by
  rcases loops with _ | ⟨first, rest⟩
  · cases drawn
    exact ⟨List.forall_mem_nil _, List.forall_mem_nil _, rfl⟩
  · unfold outline at drawn
    rw [if_neg (by exact Bool.false_ne_true)] at drawn
    rcases Outcome.bind_eq_ok.mp drawn with ⟨paths, written, same⟩
    rw [List.mapM_map] at written
    cases same
    have known : forall loop, loop ∈ first :: rest -> KnowsCorners loop := by
      intro loop listed
      rcases Outcome.exists_of_mapM_eq_ok written listed with ⟨text, path⟩
      exact hasBinary64_of_pathText path
    have inline := isInline_intercalate fun text listed => by
      rcases Outcome.exists_of_mem_mapM written listed with ⟨loop, _, path⟩
      exact isInline_pathText path
    refine ⟨known, ?_, ?_⟩
    · rintro row listed
      rw [List.mem_singleton.mp listed]
      exact isUnbroken_element (by decide) (.cons (by decide) inline.isUnbroken (by decide))
    · have data := outlineData?_path (fun c member => (inline c member).1) outlineAttributes
      rw [if_pos (by decide)] at data
      unfold rowsShow
      rw [List.findSome?_singleton]
      change (outlineData? (element "path" (_ :: outlineAttributes)).toList).elim _ _ = _
      rw [data]
      exact (leads_intercalate (List.cons_ne_nil _ _) corners known written []).readPath?_eq

/-! ## The drawing -/

/-- A drawing consists of its lines. -/
theorem lines_intercalate {rows : List String} {last : String}
    (solid : forall row, row ∈ rows -> IsUnbroken row.toList) (solidLast : IsUnbroken last.toList)
    (nonempty : last.toList ≠ []) :
    Text.lines (String.intercalate "\n" (rows ++ [last])).toList =
      (rows ++ [last]).map String.toList := by
  rw [String.toList_intercalate]
  refine Text.lines_intercalate_of_solid ?_ ?_
  · rw [List.forall_mem_map, List.forall_mem_append]
    exact ⟨solid, List.forall_mem_singleton.mpr solidLast⟩
  · rw [List.map_append, List.map_singleton, List.getLast?_concat]
    rintro row ⟨⟩
    exact nonempty

/-- The lines of a drawing without those that are not the outline. -/
theorem findSome?_outline {before rows after : List String}
    (aside : forall row, row ∈ before -> IsAside row)
    (asideToo : forall row, row ∈ after -> IsAside row) :
    (before ++ rows ++ after).findSome? (fun row => outlineData? row.toList) =
      rows.findSome? fun row => outlineData? row.toList := by
  have nothing : forall {rows : List String}, (forall row, row ∈ rows -> IsAside row) ->
      rows.findSome? (fun row => outlineData? row.toList) = none :=
    fun all => List.findSome?_eq_none_iff.mpr fun row listed => (all row listed).passed
  rw [List.findSome?_append, List.findSome?_append, nothing aside, nothing asideToo, Option.none_or,
    Option.or_none]

/-- A drawing begins with lines that are not the outline. -/
theorem exists_before_of_toSvg {scene : Scene} {withGrid : Bool} {drawing : String}
    (drawn : scene.toSvg withGrid = .ok drawing) :
    Exists fun before : List String => (forall row, row ∈ before -> IsAside row) ∧
      (do
        let rows ← outline scene.loops
        let lines ← scene.lines.mapM segment
        let circles ← scene.circles.mapM disc
        let squares ← scene.squares.mapM tile
        return String.intercalate "\n"
          (before ++ rows ++ lines ++ circles ++ squares ++ ["</svg>"])) = Except.ok drawing := by
  rcases Outcome.bind_eq_ok.mp drawn with ⟨opening, opened, drawn⟩
  cases withGrid with
  | false =>
      refine ⟨[opening], fun row listed => ?_, drawn⟩
      rw [List.mem_singleton.mp listed]
      exact isAside_openingTag opened
  | true =>
      rcases Outcome.bind_eq_ok.mp drawn with ⟨cells, gridded, drawn⟩
      exact ⟨opening :: cells, List.forall_mem_cons.mpr
        ⟨isAside_openingTag opened, fun _ listed => isAside_gridCells gridded listed⟩, drawn⟩

/-- Of a drawing nothing is read but what its outline shows. -/
theorem readLoops?_toSvg {scene : Scene} {withGrid : Bool} {drawing : String}
    (drawn : scene.toSvg withGrid = .ok drawing) :
    Exists fun rows => outline scene.loops = .ok rows ∧
      ((forall row, row ∈ rows -> IsUnbroken row.toList) ->
        readLoops? drawing.toList = rowsShow rows) := by
  rcases exists_before_of_toSvg drawn with ⟨before, aside, drawn⟩
  rcases Outcome.bind_eq_ok.mp drawn with ⟨rows, outlined, drawn⟩
  rcases Outcome.bind_eq_ok.mp drawn with ⟨lines, segments, drawn⟩
  rcases Outcome.bind_eq_ok.mp drawn with ⟨circles, discs, drawn⟩
  rcases Outcome.bind_eq_ok.mp drawn with ⟨squares, tiles, same⟩
  cases same
  refine ⟨rows, outlined, fun solid => ?_⟩
  have after : forall row, row ∈ lines ++ circles ++ squares -> IsAside row := by
    intro row listed
    rcases List.mem_append.mp listed with listed | listed
    · rcases List.mem_append.mp listed with listed | listed
      · rcases Outcome.exists_of_mem_mapM segments listed with ⟨_, _, drawn⟩
        exact isAside_segment drawn
      · rcases Outcome.exists_of_mem_mapM discs listed with ⟨_, _, drawn⟩
        exact isAside_disc drawn
    · rcases Outcome.exists_of_mem_mapM tiles listed with ⟨_, _, drawn⟩
      exact isAside_tile drawn
  have all : forall row, row ∈ before ++ rows ++ (lines ++ circles ++ squares) ->
      IsUnbroken row.toList := by
    intro row listed
    rcases List.mem_append.mp listed with listed | listed
    · rcases List.mem_append.mp listed with listed | listed
      · exact (aside row listed).solid
      · exact solid row listed
    · exact (after row listed).solid
  have split : before ++ rows ++ lines ++ circles ++ squares ++ ["</svg>"] =
      before ++ rows ++ (lines ++ circles ++ squares) ++ ["</svg>"] := by
    simp only [List.append_assoc]
  have ending : forall row, row ∈ lines ++ circles ++ squares ++ ["</svg>"] -> IsAside row := by
    intro row listed
    rcases List.mem_append.mp listed with listed | listed
    · exact after row listed
    · rw [List.mem_singleton.mp listed]
      exact isAside_closingTag
  unfold readLoops? pathData? rowsShow
  rw [split, lines_intercalate all isAside_closingTag.solid (by decide), List.findSome?_map,
    List.append_assoc]
  exact congrArg (Option.elim · _ _) (findSome?_outline aside ending)

/-! ## Drawings of maps -/

/-- The corners of a loop with their exact coordinates. -/
def exactLoop (loop : Loop Int) : List (Point ℚ) :=
  loop.points.map exactPoint

/-- All coordinates of some loops are short. -/
def AreShort (loops : List (Loop Int)) : Prop :=
  forall loop, loop ∈ loops -> forall p, p ∈ loop.points -> IsShortPoint p

/-- A map that is compiled at a whole number of pixels for each cell has these loops and
this drawing. -/
def IsDrawingOf (drawing : String) (loops : List (Loop Int)) : Prop :=
  Exists fun text => Exists fun scale => Exists fun scene => Exists fun withGrid =>
    Scene.ofText text (some (.whole scale)) = .ok scene ∧
      scene.toSvg withGrid = .ok drawing ∧ scene.loops = loops.map Loop.toNumbers

theorem toNumbers_injective {loop other : Loop Int} (same : loop.toNumbers = other.toNumbers) :
    loop = other := by
  have points : loop.points.map (Point.map Number.whole) = other.points.map (Point.map .whole) :=
    congrArg Loop.points same
  rw [List.map_inj_right fun p q equal => by
    cases p
    cases q
    cases equal
    rfl] at points
  cases loop
  cases other
  exact congrArg Loop.mk points

/-- The loops of an outline have corners. -/
theorem points_ne_nil_of_outline {mask : Mask} {loops : List (Loop Int)}
    (outlined : mask.outline = .ok loops) {loop : Loop Int} (listed : loop ∈ loops) :
    loop.points ≠ [] := by
  rcases mask.exists_traced with ⟨chains, same, traced⟩
  cases outlined.symm.trans same
  rcases List.mem_map.mp listed with ⟨chain, chained, rfl⟩
  have four := (traced.isCanonical chained).four_le
  exact List.ne_nil_of_length_pos (by omega)

theorem exists_loops_of_ofText {text : List Char} {scale : Int} {scene : Scene}
    (compiled : Scene.ofText text (some (.whole scale)) = .ok scene) :
    Exists fun loops : List (Loop Int) => scene.loops = loops.map Loop.toNumbers ∧
      forall loop, loop ∈ loops -> loop.points ≠ [] := by
  rcases Scene.exists_shows_of_ofText compiled with ⟨_, _, survey, _, loops, outlined, shows⟩
  refine ⟨loops.map (Loop.magnified scale), shows.loops, fun loop listed => ?_⟩
  rcases List.mem_map.mp listed with ⟨original, found, rfl⟩
  exact fun nothing => points_ne_nil_of_outline outlined found (List.map_eq_nil_iff.mp nothing)

/-- The drawing of a map shows its loops. -/
theorem IsDrawingOf.readLoops?_eq {drawing : String} {loops : List (Loop Int)}
    (isDrawing : IsDrawingOf drawing loops) :
    (forall loop, loop ∈ loops -> KnowsCorners loop) ∧
      readLoops? drawing.toList = some (loops.map shownLoop) := by
  rcases isDrawing with ⟨text, scale, scene, withGrid, compiled, drawn, same⟩
  rcases exists_loops_of_ofText compiled with ⟨traced, sameLoops, corners⟩
  have equal : traced = loops := by
    rw [sameLoops] at same
    exact (List.map_inj_right fun _ _ => toNumbers_injective).mp same
  subst equal
  rcases readLoops?_toSvg drawn with ⟨rows, outlined, read⟩
  rw [sameLoops] at outlined
  rcases outline_spec corners outlined with ⟨known, solid, shown⟩
  exact ⟨known, (read solid).trans shown⟩

theorem map_shownLoop_eq_iff {loops : List (Loop Int)}
    (known : forall loop, loop ∈ loops -> KnowsCorners loop) :
    loops.map shownLoop = loops.map exactLoop ↔ AreShort loops := by
  rw [List.map_inj_left]
  constructor
  · intro same loop listed p member
    have six := map_shownPoint_eq_iff.mp (same loop listed) p member
    exact ⟨⟨(known loop listed p member).1, six.1⟩, (known loop listed p member).2, six.2⟩
  · intro short loop listed
    exact map_shownPoint_eq_iff.mpr fun p member =>
      ⟨(short loop listed p member).1.2, (short loop listed p member).2.2⟩

theorem exactLoop_injective {loop other : Loop Int} (same : exactLoop loop = exactLoop other) :
    loop = other := by
  have points := (List.map_inj_right fun _ _ equal => exactPoint_injective equal).mp same
  cases loop
  cases other
  exact congrArg Loop.mk points

/-- Short loops are read from a drawing as they are. -/
theorem IsDrawingOf.readLoops?_eq_iff {drawing : String} {loops : List (Loop Int)}
    (isDrawing : IsDrawingOf drawing loops) :
    readLoops? drawing.toList = some (loops.map exactLoop) ↔ AreShort loops := by
  rcases isDrawing.readLoops?_eq with ⟨known, read⟩
  rw [read, Option.some_inj, map_shownLoop_eq_iff known]

/-- The path of the loops tells loops apart that are not shown alike. -/
theorem IsDrawingOf.shownLoop_eq {drawing other : String} {loops others : List (Loop Int)}
    (isDrawing : IsDrawingOf drawing loops) (isOther : IsDrawingOf other others)
    (same : pathData? drawing.toList = pathData? other.toList) :
    loops.map shownLoop = others.map shownLoop := by
  have read := isDrawing.readLoops?_eq.2
  have readOther := isOther.readLoops?_eq.2
  unfold readLoops? at read readOther
  rw [same, readOther] at read
  exact (Option.some_inj.mp read).symm

theorem IsDrawingOf.eq_of_areShort {drawing other : String} {loops others : List (Loop Int)}
    (isDrawing : IsDrawingOf drawing loops) (isOther : IsDrawingOf other others)
    (same : pathData? drawing.toList = pathData? other.toList) (short : AreShort loops)
    (shortOther : AreShort others) : loops = others := by
  have shown := isDrawing.shownLoop_eq isOther same
  rw [(map_shownLoop_eq_iff isDrawing.readLoops?_eq.1).mpr short,
    (map_shownLoop_eq_iff isOther.readLoops?_eq.1).mpr shortOther] at shown
  exact (List.map_inj_right fun _ _ => exactLoop_injective).mp shown

/-! ## What paths and drawings tell -/

/-- A path, and the path of a drawing, show the corners of lattice loops in their order,
each coordinate with six significant digits.  So they are read back if and only if their
coordinates have no more digits than that, and only loops that are shown alike have the
same path. -/
theorem paths_exact (points corners : List Vertex) (text : List Char) (scale : Int)
    (scene : Scene) (drawing other : String) (loops others : List (Loop Int)) :
    (points ≠ [] -> (ReadsBack points ↔ forall p, p ∈ points -> IsShortPoint p)) ∧
    (points ≠ [] -> corners ≠ [] -> (forall p, p ∈ points -> HasBinary64 p) ->
      (forall p, p ∈ corners -> HasBinary64 p) ->
        (pathText (points.map (Point.map .whole)) = pathText (corners.map (Point.map .whole)) ↔
          points.map shownPoint = corners.map shownPoint)) ∧
    (Scene.ofText text (some (.whole scale)) = .ok scene ->
      Exists fun traced : List (Loop Int) => scene.loops = traced.map Loop.toNumbers) ∧
    (IsDrawingOf drawing loops ->
      readLoops? drawing.toList = some (loops.map shownLoop) ∧
        (readLoops? drawing.toList = some (loops.map exactLoop) ↔ AreShort loops)) ∧
    (IsDrawingOf drawing loops -> IsDrawingOf other others ->
      pathData? drawing.toList = pathData? other.toList ->
        loops.map shownLoop = others.map shownLoop ∧
          (AreShort loops -> AreShort others -> loops = others)) := by
  refine ⟨readsBack_iff, pathText_eq_iff, ?_, ?_, ?_⟩
  · intro compiled
    rcases exists_loops_of_ofText compiled with ⟨traced, same, _⟩
    exact ⟨traced, same⟩
  · exact fun isDrawing => ⟨isDrawing.readLoops?_eq.2, isDrawing.readLoops?_eq_iff⟩
  · exact fun isDrawing isOther same =>
      ⟨isDrawing.shownLoop_eq isOther same, isDrawing.eq_of_areShort isOther same⟩

/-- Seven digits are not read back, and two loops that differ in the seventh have the same
path. -/
theorem not_readsBack_sevenDigits :
    ¬ ReadsBack [⟨1234567, 0⟩] ∧
      pathText [⟨.whole 1000000, .whole 0⟩] = pathText [⟨.whole 1000001, .whole 0⟩] := by
  have known : forall n : Int, n.natAbs ≤ 2 ^ 53 ->
      forall p, p ∈ ([⟨n, 0⟩] : List Vertex) -> HasBinary64 p := by
    intro n small p member
    rw [List.mem_singleton.mp member]
    exact ⟨Number.hasBinary64_of_le small, Number.hasBinary64_of_le (Nat.zero_le _)⟩
  have six : Decimal.sixDigits 1000000 = Decimal.sixDigits 1000001 := by
    unfold Decimal.sixDigits
    rw [Decimal.width_eq (n := 1000000) (k := 6) (by decide) (by decide) (by decide),
      Decimal.width_eq (n := 1000001) (k := 6) (by decide) (by decide) (by decide)]
    decide
  have alike : Number.shown 1000000 = Number.shown 1000001 :=
    (Number.shown_natCast (by decide)).trans ((congrArg Nat.cast six).trans
      (Number.shown_natCast (by decide)).symm)
  refine ⟨fun reads => ?_, ?_⟩
  · have short := (readsBack_iff (List.cons_ne_nil _ _)).mp reads _ List.mem_cons_self
    rcases short.1.2 with ⟨leading, zeros, bound, same⟩
    change 1234567 = leading * 10 ^ zeros at same
    cases zeros with
    | zero => omega
    | succ zeros =>
        rw [Nat.pow_succ, ← Nat.mul_assoc] at same
        omega
  · refine (pathText_eq_iff (List.cons_ne_nil ⟨1000000, 0⟩ []) (List.cons_ne_nil ⟨1000001, 0⟩ [])
      (known 1000000 (by decide)) (known 1000001 (by decide))).mpr ?_
    unfold shownPoint Point.map
    rw [List.map_singleton, List.map_singleton]
    dsimp only
    rw [alike]

end Svg
end BattleMap
