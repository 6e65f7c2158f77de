import BattleMap.Proofs.Lines
import BattleMap.Proofs.Unreadable

namespace BattleMap

/-!
# The spelling of line ends does not matter

The text of a file has its carriage returns replaced before it is read, and the text
of the input has not.  The reader takes a carriage return for a line end by itself, and
together with a line feed for one line end, just as the replacement does.  So both texts
have the same lines with the same numbers, in whatever order the line ends are mixed,
and all that follows is the same: the document, its positions, the diagnostics, and what
a run leaves behind.
-/

namespace Text

/-! ## What the replacement does -/

theorem unifyLineEnds_pair (rest : List Char) :
    unifyLineEnds ('\r' :: '\n' :: rest) = '\n' :: unifyLineEnds rest := rfl

theorem unifyLineEnds_carriageReturn {rest : List Char}
    (alone : forall behind, rest ≠ '\n' :: behind) :
    unifyLineEnds ('\r' :: rest) = '\n' :: unifyLineEnds rest := by
  rw [unifyLineEnds]
  · rfl
  · exact fun behind _ => alone behind

theorem unifyLineEnds_cons_of_ne {c : Char} (other : c ≠ '\r') (rest : List Char) :
    unifyLineEnds (c :: rest) = c :: unifyLineEnds rest := by
  rw [unifyLineEnds, if_neg other]
  exact fun _ returns => absurd returns other

/-- No carriage return is left. -/
theorem carriageReturn_not_mem_unifyLineEnds (text : List Char) : '\r' ∉ unifyLineEnds text := by
  induction text using unifyLineEnds.induct with
  | case1 => exact List.not_mem_nil
  | case2 rest later => exact List.not_mem_cons_of_ne_of_not_mem (by decide) later
  | case3 c rest noPair later =>
      by_cases returns : c = '\r'
      · subst returns
        rw [unifyLineEnds_carriageReturn fun behind => noPair behind rfl]
        exact List.not_mem_cons_of_ne_of_not_mem (by decide) later
      · rw [unifyLineEnds_cons_of_ne returns]
        exact List.not_mem_cons_of_ne_of_not_mem (Ne.symm returns) later

/-- What holds no carriage return stays as it is. -/
theorem unifyLineEnds_append {row : List Char} (plain : '\r' ∉ row) (rest : List Char) :
    unifyLineEnds (row ++ rest) = row ++ unifyLineEnds rest := by
  induction row with
  | nil => rfl
  | cons c others later =>
      have other : c ≠ '\r' := Ne.symm (List.ne_of_not_mem_cons plain)
      rw [List.cons_append, unifyLineEnds_cons_of_ne other,
        later (List.not_mem_of_not_mem_cons plain), List.cons_append]

/-- A line that is ended by a carriage return, with or without a line feed behind it, is
ended by one line feed instead. -/
theorem unifyLineEnds_row {row rest : List Char} (plain : '\r' ∉ row) :
    unifyLineEnds (row ++ '\r' :: '\n' :: rest) = row ++ '\n' :: unifyLineEnds rest ∧
      ((forall behind, rest ≠ '\n' :: behind) ->
        unifyLineEnds (row ++ '\r' :: rest) = row ++ '\n' :: unifyLineEnds rest) := by
  constructor
  · rw [unifyLineEnds_append plain, unifyLineEnds_pair]
  · intro alone
    rw [unifyLineEnds_append plain, unifyLineEnds_carriageReturn alone]

/-- The replacement moves no character to another line. -/
theorem lines_unifyLineEnds (text : List Char) : lines (unifyLineEnds text) = lines text := by
  induction text using unifyLineEnds.induct with
  | case1 => rfl
  | case2 rest later => rw [unifyLineEnds_pair, lines_lineFeed, later, lines_pair]
  | case3 c rest noPair later =>
      -- What follows a lone carriage return is no line feed, so it ends its line by itself.
      by_cases returns : c = '\r'
      · subst returns
        have alone := fun behind => noPair behind rfl
        rw [unifyLineEnds_carriageReturn alone, lines_lineFeed, later, lines_carriageReturn alone]
      · rw [unifyLineEnds_cons_of_ne returns, lines_cons_of_ne returns, lines_cons_of_ne returns,
          later]

end Text

theorem Document.read_unifyLineEnds (text : List Char) :
    read (Text.unifyLineEnds text) = read text := by
  unfold read Text.numberedLines
  rw [Text.lines_unifyLineEnds]

namespace Storage

theorem textAt_ofText {storage : Storage} {path text : String}
    (usable : Path.isUnusable path = false) (found : storage.read path = .ok (.ofText text)) :
    storage.textAt path = .ok (String.ofList (Text.unifyLineEnds text.toList)) := by
  unfold textAt
  rw [usable, if_neg Bool.false_ne_true, found]
  exact Content.readText_ofText text

end Storage

namespace Session

theorem produce_unifyLineEnds (options : Options) (text : String) :
    produce options (String.ofList (Text.unifyLineEnds text.toList)) = produce options text := by
  unfold produce compile
  rw [String.toList_ofList, Document.read_unifyLineEnds]

theorem given?_some {path : String} (nonempty : path ≠ "") : given? (some path) = some path :=
  Option.filter_some_pos (decide_eq_true nonempty)

/-- However the line ends of a map are spelled, and whether they are replaced or not, it
is the same map, with the same positions and the same mistakes.  So it makes no
difference to a run whether it takes a text from a file or from its input. -/
theorem lineEnds_immaterial (text : String) :
    Document.read (Text.unifyLineEnds text.toList) = Document.read text.toList ∧
    (Content.ofText text).readText = .ok (String.ofList (Text.unifyLineEnds text.toList)) ∧
    forall (options : Options) (path : String) (named plain : List String) (input : String)
        (storage : Storage),
      Options.parse named = .ok { options with file := some path } ->
      Options.parse plain = .ok { options with file := none } ->
      path ≠ "" -> Path.isUnusable path = false ->
      storage.read path = .ok (.ofText text) ->
      run named input storage = run plain text storage := by
  refine ⟨Document.read_unifyLineEnds text.toList, Content.readText_ofText text, ?_⟩
  intro options path named plain input storage acceptedNamed acceptedPlain nonempty usable found
  have fromFile : sourceText { options with file := some path } input storage =
      .ok (String.ofList (Text.unifyLineEnds text.toList)) :=
    (sourceText_of_file input storage (given?_some nonempty)).trans (Storage.textAt_ofText usable found)
  have fromInput : sourceText { options with file := none } text storage = .ok text := rfl
  rw [run_of_text acceptedNamed fromFile, run_of_text acceptedPlain fromInput,
    produce_unifyLineEnds]
  rfl

/-! ## Two rooms in three spellings -/

def mixedRooms : String := "grid 3,1\r\r\nrect at 0,0 width 1 height 1\rrect at 2,0 width 1 height 1\r"

theorem lineEnds_immaterial_mixedRooms :
    run ["-f", "rooms.map"] "" (.ofFiles [("rooms.map", .ofText mixedRooms)]) =
      run [] mixedRooms (.ofFiles [("rooms.map", .ofText mixedRooms)]) := by
  have accepted : Options.parse ["-f", "rooms.map"] =
      .ok { Options.initial with file := some "rooms.map" } := by
    delta Options.parse Options.carryOut
    with_unfolding_all rfl
  have plain : Options.parse [] = .ok { Options.initial with file := none } := by
    delta Options.parse Options.carryOut
    with_unfolding_all rfl
  exact (lineEnds_immaterial mixedRooms).2.2 Options.initial "rooms.map" _ _ _ _ accepted plain
    (by decide) (by decide +kernel) (by decide +kernel)

end Session
end BattleMap
