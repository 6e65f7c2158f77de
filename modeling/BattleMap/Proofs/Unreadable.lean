import BattleMap.Proofs.Conduct

namespace BattleMap

/-!
# Maps that cannot be read

A map is read from a file in two steps: the bytes of the file have to be found, and
they have to be a text.  What goes wrong with the first step is reported.  Bytes that
are no text, and paths that no file can have, are not expected at all, and end the
run without a word.  So it depends on the file alone whether a run copes with it.
-/

namespace Content

/-- Whether there is a text that a file with this content holds. -/
def IsText (content : Content) : Prop :=
  Exists fun text => content = ofText text

theorem readText_ofText (text : String) :
    (ofText text).readText = .ok (String.ofList (Text.unifyLineEnds text.toList)) := by
  have whole : String.fromUTF8? ⟨text.toUTF8.data.toList.toArray⟩ = some text := by
    rw [Array.toArray_toList]
    exact dif_pos text.isValidUTF8
  unfold ofText readText
  dsimp only
  rw [whole]

theorem readText_of_not_isText {content : Content} (noText : ¬ content.IsText) :
    content.readText = .error .undecodable := by
  cases content with
  | painting painting => rfl
  | bytes data =>
      unfold readText
      dsimp only
      split
      · rename_i text whole
        refine absurd ⟨text, ?_⟩ noText
        unfold String.fromUTF8? at whole
        split at whole
        · cases whole
          rfl
        · cases whole
      · rfl

end Content

namespace Storage

variable {storage : Storage} {path : String}

/-- Whether a file can have this path, and holds a text if it is there. -/
def IsReadable (storage : Storage) (path : String) : Prop :=
  Path.isUnusable path = false ∧ forall content, storage.read path = .ok content -> content.IsText

/-- If only a text can be found at a path, it is either found, or there is nothing to
be read at all. -/
theorem textAt_of_isReadable (readable : storage.IsReadable path) :
    (Exists fun text => storage.textAt path = .ok text) ∨
      Exists fun cause => storage.textAt path = .error (.storage ⟨cause, path⟩) := by
  rcases readable with ⟨usable, texts⟩
  unfold textAt
  rw [usable, if_neg Bool.false_ne_true]
  cases found : storage.read path with
  | error cause => exact .inr ⟨cause, rfl⟩
  | ok content =>
      rcases texts content found with ⟨text, rfl⟩
      exact .inl ⟨_, Content.readText_ofText text⟩

theorem textAt_of_not_isReadable (unreadable : ¬ storage.IsReadable path) :
    storage.textAt path = .error .unusablePath ∨ storage.textAt path = .error .undecodable := by
  unfold textAt
  cases usable : Path.isUnusable path with
  | true => exact .inl rfl
  | false =>
      rw [if_neg Bool.false_ne_true]
      right
      cases found : storage.read path with
      | error cause =>
          refine absurd ⟨usable, fun content impossible => ?_⟩ unreadable
          cases found.symm.trans impossible
      | ok content =>
          apply Content.readText_of_not_isText
          intro isText
          refine unreadable ⟨usable, fun other same => ?_⟩
          cases found.symm.trans same
          exact isText

end Storage

namespace Session

/-- A run copes with the file that it is given: it goes on with the text of the file,
or reports that there is none, puts out nothing and ends with status 2. -/
def CopesWithFile (arguments : List String) (input : String) (storage : Storage) : Prop :=
  forall options path, Options.parse arguments = .ok options -> given? options.file = some path ->
    (Exists fun text => storage.textAt path = .ok text ∧
      run arguments input storage = conclude (perform (produce options text) ⟨"", ""⟩ storage)) ∨
    Exists fun complaint => run arguments input storage =
      (⟨.exited 2, "", "ERROR: could not read " ++ path ++ ": " ++ complaint ++ "\n"⟩, storage)

section

variable {arguments : List String} {input path : String} {storage : Storage} {options : Options}

theorem sourceText_of_file (input : String) (storage : Storage)
    (named : given? options.file = some path) :
    sourceText options input storage = storage.textAt path := by
  unfold sourceText
  rw [named]

/-- A path that no file can have, and bytes that are no text, end a run at once. -/
theorem run_of_unreadable (input : String) (accepted : Options.parse arguments = .ok options)
    (named : given? options.file = some path) (unreadable : ¬ storage.IsReadable path) :
    run arguments input storage = (⟨.stopped .unusablePath, "", ""⟩, storage) ∨
      run arguments input storage = (⟨.stopped .undecodable, "", ""⟩, storage) := by
  have same := sourceText_of_file input storage named
  rcases Storage.textAt_of_not_isReadable unreadable with unusable | undecodable
  · exact .inl (run_of_unread accepted (same.trans unusable))
  · exact .inr (run_of_unread accepted (same.trans undecodable))

end

/-- A run copes with exactly those files that hold a text if they are there at all.
With every other file it stops without a word. -/
theorem copesWithFile_iff (arguments : List String) (input : String) (storage : Storage) :
    (CopesWithFile arguments input storage ↔ forall options path,
      Options.parse arguments = .ok options -> given? options.file = some path ->
        storage.IsReadable path) ∧
    forall options path, Options.parse arguments = .ok options -> given? options.file = some path ->
      ¬ storage.IsReadable path ->
        run arguments input storage = (⟨.stopped .unusablePath, "", ""⟩, storage) ∨
          run arguments input storage = (⟨.stopped .undecodable, "", ""⟩, storage) := by
  refine ⟨⟨fun copes options path accepted named => ?_, fun readable options path accepted named => ?_⟩,
    fun options path => run_of_unreadable input⟩
  · by_contra unreadable
    rcases copes options path accepted named with ⟨text, found, _⟩ | ⟨complaint, reported⟩
    · rcases Storage.textAt_of_not_isReadable unreadable with unusable | undecodable
      · cases found.symm.trans unusable
      · cases found.symm.trans undecodable
    · rcases run_of_unreadable input accepted named unreadable with stopped | stopped
      · cases reported.symm.trans stopped
      · cases reported.symm.trans stopped
  · have same := sourceText_of_file input storage named
    rcases Storage.textAt_of_isReadable (readable options path accepted named) with
      ⟨text, found⟩ | ⟨cause, missing⟩
    · exact .inl ⟨text, found, run_of_text accepted (same.trans found)⟩
    · exact .inr ⟨_, run_of_unread accepted (same.trans missing)⟩

/-! ## A byte that begins no character -/

def damagedStorage : Storage := .ofFiles [("bad.map", .bytes [0xff])]

/-- A file that is no text ends a run like a defect of the program. -/
theorem not_copesWithFile_damagedStorage :
    ¬ CopesWithFile ["-f", "bad.map"] "" damagedStorage := by
  intro copes
  have accepted : Options.parse ["-f", "bad.map"] =
      .ok ⟨some "bad.map", .usual, none, none, false, false⟩ := by
    delta Options.parse Options.carryOut
    with_unfolding_all rfl
  have damaged : damagedStorage.textAt "bad.map" = .error .undecodable := by decide +kernel
  rcases copes _ _ accepted rfl with ⟨text, found, _⟩ | ⟨complaint, reported⟩
  · cases found.symm.trans damaged
  · cases reported.symm.trans (run_of_unread accepted damaged)

end Session
end BattleMap
