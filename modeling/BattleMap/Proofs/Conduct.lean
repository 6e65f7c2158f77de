import BattleMap.Proofs.Footprint
import BattleMap.Session

namespace BattleMap

/-!
# How a session is carried out

A session is made of parts of three kinds.  Some only compute something and note it
in the log, some work on the storage and note that, and a few put out a text.  The
first two kinds are settled at once here: such a part comes to what its action on the
storage comes to, and puts out nothing but notes, and none at all unless the log is
wanted.  What is left is a chain of a few cases: whether there is a text, whether it
compiles, whether the drawing can be put out, and whether everything can be saved.
-/

namespace Storage

/-- The text of the file at a path, or why there is none. -/
def textAt (storage : Storage) (path : String) : Except Fault String :=
  if Path.isUnusable path then .error .unusablePath
  else match storage.read path with
    | .ok content => content.readText
    | .error cause => .error (.storage ⟨cause, path⟩)

end Storage

theorem StorageAction.perform_readText (path : String) (storage : Storage) :
    (readText path).perform storage = (storage.textAt path, storage) := by
  unfold readText Storage.textAt
  rw [perform_requireUsable_bind, perform_get_bind, perform_settle_bind]
  split
  · rfl
  · cases storage.read path with
    | error cause => rfl
    | ok content =>
        dsimp only
        cases content.readText <;> rfl

namespace Session

variable {α β : Type} {verbose : Bool}

/-- What a part of a session comes to, and the texts and the storage that it leaves. -/
def perform (work : Work α) (streams : Streams) (storage : Storage) :
    (Except Fault α × Streams) × Storage :=
  (work.run.run streams).run storage

/-- What comes before only matters by what it comes to. -/
theorem perform_bind_congr {work other : Work α} {next : α -> Work β} {streams later : Streams}
    {storage after : Storage}
    (performed : perform work streams storage = perform other later after) :
    perform (work >>= next) streams storage = perform (other >>= next) later after := by
  change ((ExceptT.bindCont next (perform work streams storage).1.1).run
    (perform work streams storage).1.2).run (perform work streams storage).2 = _
  rw [performed]
  rfl

theorem perform_bind_of_ok {work : Work α} {next : α -> Work β} {streams later : Streams}
    {storage after : Storage} {result : α}
    (performed : perform work streams storage = ((.ok result, later), after)) :
    perform (work >>= next) streams storage = perform (next result) later after := by
  have same : perform work streams storage = perform (pure result) later after := performed
  exact perform_bind_congr same

theorem perform_bind_of_error {work : Work α} {next : α -> Work β} {streams later : Streams}
    {storage after : Storage} {fault : Fault}
    (performed : perform work streams storage = ((.error fault, later), after)) :
    perform (work >>= next) streams storage = ((.error fault, later), after) := by
  have same : perform work streams storage = perform (throw fault) later after := performed
  exact perform_bind_congr same

/-! ## Parts that only note what they do -/

/-- A part of a session comes to what an action on the storage comes to, and puts out
nothing but notes for the log. -/
def CarriesOut (verbose : Bool) (work : Work α) (action : StorageAction α) : Prop :=
  forall streams storage, Exists fun notes => (verbose = false -> notes = "") ∧
    perform work streams storage =
      (((action.perform storage).1, ⟨streams.output, streams.errors ++ notes⟩),
        (action.perform storage).2)

theorem carriesOut_storageStep (verbose : Bool) (action : StorageAction α) :
    CarriesOut verbose (storageStep action) action := by
  intro streams storage
  refine ⟨"", fun _ => rfl, ?_⟩
  rw [String.append_empty]
  change perform (pureStep (action.perform storage).1) streams (action.perform storage).2 = _
  cases (action.perform storage).1 <;> rfl

theorem carriesOut_pureStep (result : Except Fault α) :
    CarriesOut verbose (pureStep result) (StorageAction.ofExcept result) := by
  intro streams storage
  refine ⟨"", fun _ => rfl, ?_⟩
  rw [String.append_empty]
  cases result <;> rfl

theorem carriesOut_note (line : String) :
    CarriesOut verbose (note verbose line) (pure ()) := by
  intro streams storage
  cases verbose with
  | false => exact ⟨"", fun _ => rfl, by rw [String.append_empty]; rfl⟩
  | true => exact ⟨line, fun quiet => (nomatch quiet), rfl⟩

theorem CarriesOut.bind {work : Work α} {next : α -> Work β} {action : StorageAction α}
    {nextAction : α -> StorageAction β} (early : CarriesOut verbose work action)
    (late : forall result, CarriesOut verbose (next result) (nextAction result)) :
    CarriesOut verbose (work >>= next) (action >>= nextAction) := by
  intro streams storage
  rcases early streams storage with ⟨notes, quiet, performed⟩
  rcases acted : action.perform storage with ⟨fault | result, after⟩
  · rw [acted] at performed
    rw [StorageAction.perform_bind_of_error acted]
    exact ⟨notes, quiet, perform_bind_of_error performed⟩
  · rw [acted] at performed
    rw [StorageAction.perform_bind_of_ok acted, perform_bind_of_ok performed]
    rcases late result ⟨streams.output, streams.errors ++ notes⟩ after with ⟨more, quietToo, onward⟩
    refine ⟨notes ++ more, fun silent => ?_, ?_⟩
    · rw [quiet silent, quietToo silent]
      rfl
    · rw [onward, String.append_assoc]

theorem CarriesOut.bind_pureStep {result : Except Fault α} {next : α -> Work β}
    {onward : α -> Except Fault β}
    (late : forall middle, CarriesOut verbose (next middle) (StorageAction.ofExcept (onward middle))) :
    CarriesOut verbose (pureStep result >>= next) (StorageAction.ofExcept (result >>= onward)) := by
  rw [StorageAction.ofExcept_bind]
  exact (carriesOut_pureStep result).bind late

theorem CarriesOut.bind_note {line : String} {next : Work α} {action : StorageAction α}
    (late : CarriesOut verbose next action) :
    CarriesOut verbose (note verbose line >>= fun _ => next) action :=
  (carriesOut_note line).bind fun _ => late

/-- The scene of a map at the size that is asked for.  If the log is wanted, what is
noted there has to be found out as well. -/
def compiled (verbose : Bool) (text : List Char) (size : RequestedSize) : Except Fault Scene := do
  let document ← Document.read text
  let survey ← document.survey
  let loops ← survey.floor.outline
  if verbose then let _ ← floorNote survey.floor loops
  let scene ← survey.scene document.grid.item loops (some (← cellSize size))
  if verbose then let _ ← sceneNote scene
  return scene

/-- Without the log a session compiles the scene of the text. -/
theorem compiled_eq_ofText {size : RequestedSize} {pixels : Number}
    (asked : cellSize size = .ok pixels) (text : List Char) :
    compiled false text size = Scene.ofText text (some pixels) := by
  unfold compiled Scene.ofText Document.compile
  rw [asked]
  simp only [bind_pure, Bool.false_eq_true, if_false]
  rfl

theorem carriesOut_compile (verbose : Bool) (text : List Char) (size : RequestedSize) :
    CarriesOut verbose (compile verbose text size)
      (StorageAction.ofExcept (compiled verbose text size)) := by
  cases verbose with
  | false =>
      exact .bind_pureStep fun document => .bind_note (.bind_pureStep fun survey =>
        .bind_pureStep fun loops => .bind_note (.bind_pureStep fun pixels =>
          .bind_pureStep fun scene => carriesOut_pureStep (.ok scene)))
  | true =>
      exact .bind_pureStep fun document => .bind_note (.bind_pureStep fun survey =>
        .bind_pureStep fun loops => .bind_note (.bind_pureStep fun counts => .bind_note
          (.bind_pureStep fun pixels => .bind_pureStep fun scene =>
            .bind_pureStep fun summary => .bind_note (carriesOut_pureStep (.ok scene)))))

/-- The painting is saved if it is asked for. -/
def paintingSaving (options : Options) (scene : Scene) : StorageAction Unit :=
  match given? options.png with
  | some path => scene.savePainting (!options.noGrid) path
  | none => pure ()

/-- The record is saved if it is asked for. -/
def recordSaving (options : Options) (scene : Scene) : StorageAction Unit :=
  match given? options.json with
  | some path => scene.saveRecord path
  | none => pure ()

/-- Everything is saved that is asked for, the painting before the record. -/
def saving (options : Options) (scene : Scene) : StorageAction Unit := do
  paintingSaving options scene
  recordSaving options scene

theorem carriesOut_saveAll (options : Options) (scene : Scene) :
    CarriesOut options.verbose (saveAll options scene) (saving options scene) := by
  have record : forall path, CarriesOut options.verbose
      (storageStep (scene.saveRecord path) >>= fun _ => note options.verbose (wroteLine path))
      (scene.saveRecord path) := by
    intro path
    have noted := (carriesOut_storageStep options.verbose (scene.saveRecord path)).bind
      fun _ => carriesOut_note (wroteLine path)
    rwa [bind_pure_unit] at noted
  unfold saveAll saving paintingSaving recordSaving
  -- The saving of the record is the last step, so it decides the shape of what comes before.
  cases given? options.json with
  | none =>
      cases given? options.png with
      | none => exact carriesOut_pureStep (.ok ())
      | some path =>
          exact (carriesOut_storageStep _ _).bind fun _ => .bind_note (carriesOut_pureStep (.ok ()))
  | some target =>
      cases given? options.png with
      | none => exact record target
      | some path => exact (carriesOut_storageStep _ _).bind fun _ => .bind_note (record target)

/-! ## The course of a session -/

/-- The map that a session works on, or why it has none. -/
def sourceText (options : Options) (input : String) (storage : Storage) : Except Fault String :=
  match given? options.file with
  | some path => storage.textAt path
  | none => .ok input

theorem perform_source (options : Options) (input : String) (streams : Streams)
    (storage : Storage) :
    perform (source options input) streams storage =
      ((sourceText options input storage, streams), storage) := by
  unfold source sourceText
  cases given? options.file with
  | none => rfl
  | some path =>
      rcases carriesOut_storageStep false (StorageAction.readText path) streams storage
        with ⟨notes, quiet, performed⟩
      rw [StorageAction.perform_readText, quiet rfl, String.append_empty] at performed
      exact performed

theorem perform_pureStep (result : Except Fault α) (streams : Streams) (storage : Storage) :
    perform (pureStep result) streams storage = ((result, streams), storage) := by
  cases result <;> rfl

theorem perform_print (text : String) (streams : Streams) (storage : Storage) :
    perform (print text) streams storage =
      ((.ok (), ⟨streams.output ++ text, streams.errors⟩), storage) := rfl

theorem perform_tryCatch_of_ok {work : Work α} {handler : Fault -> Work α}
    {streams later : Streams} {storage after : Storage} {result : α}
    (performed : perform work streams storage = ((.ok result, later), after)) :
    perform (tryCatch work handler) streams storage = ((.ok result, later), after) := by
  unfold perform at *
  rw [ExceptT.run_tryCatch, StateT.run_bind, StateT.run_bind, performed]
  rfl

theorem perform_tryCatch_of_error {work : Work α} {handler : Fault -> Work α}
    {streams later : Streams} {storage after : Storage} {fault : Fault}
    (performed : perform work streams storage = ((.error fault, later), after)) :
    perform (tryCatch work handler) streams storage = perform (handler fault) later after := by
  unfold perform at *
  rw [ExceptT.run_tryCatch, StateT.run_bind, StateT.run_bind, performed]
  rfl

/-- An attempt never fails: a fault becomes its result. -/
theorem perform_attempt {work : Work α} {streams later : Streams} {storage after : Storage}
    {result : Except Fault α}
    (performed : perform work streams storage = ((result, later), after)) :
    perform (tryCatch (Except.ok <$> work) fun fault => return Except.error fault) streams storage =
      ((.ok result, later), after) := by
  rw [map_eq_pure_bind]
  cases result with
  | error fault => exact perform_tryCatch_of_error (perform_bind_of_error performed)
  | ok result => exact perform_tryCatch_of_ok (perform_bind_of_ok performed)

/-- What becomes of a fault that came up while the map was read. -/
def whenUnread : Fault -> Except Fault Nat × String
  | .storage fault =>
      (.ok 2, "ERROR: could not read " ++ fault.path ++ ": " ++ fault.message ++ "\n")
  | fault => (.error fault, "")

/-- What becomes of a fault that came up while the map was compiled. -/
def whenUncompiled : Fault -> Except Fault Nat × String
  | .diagnosed diagnostic => (.ok 1, diagnostic.report ++ "\n")
  | fault => (.error fault, "")

/-- What becomes of the saving behind the drawing. -/
def whenSaved : Except Fault Unit -> Except Fault Nat × String
  | .ok () => (.ok 0, "")
  | .error (.storage fault) =>
      (.ok 2, "ERROR: could not write output: " ++ fault.message ++ "\n")
  | .error fault => (.error fault, "")

section

variable {options : Options} {text : String} (streams : Streams) (storage : Storage)

theorem perform_produce_of_error {fault : Fault}
    (failed : compiled options.verbose text.toList options.dimension = .error fault) :
    Exists fun notes => (options.verbose = false -> notes = "") ∧
      perform (produce options text) streams storage =
        (((whenUncompiled fault).1,
          ⟨streams.output, streams.errors ++ notes ++ (whenUncompiled fault).2⟩), storage) := by
  rcases carriesOut_compile options.verbose text.toList options.dimension streams storage
    with ⟨notes, quiet, performed⟩
  rw [failed, StorageAction.perform_ofExcept] at performed
  refine ⟨notes, quiet, ?_⟩
  unfold produce
  rw [perform_bind_of_ok (perform_attempt performed)]
  dsimp only
  cases fault with
  | diagnosed diagnostic =>
      unfold whenUncompiled
      dsimp only
      rw [← String.append_assoc]
      rfl
  | _ =>
      unfold whenUncompiled
      dsimp only
      rw [String.append_empty]
      rfl

theorem perform_produce_of_undrawn {scene : Scene} {fault : Fault}
    (succeeded : compiled options.verbose text.toList options.dimension = .ok scene)
    (undrawn : scene.toSvg (!options.noGrid) = .error fault) :
    Exists fun notes => (options.verbose = false -> notes = "") ∧
      perform (produce options text) streams storage =
        ((.error fault, ⟨streams.output, streams.errors ++ notes⟩), storage) := by
  rcases carriesOut_compile options.verbose text.toList options.dimension streams storage
    with ⟨notes, quiet, performed⟩
  rw [succeeded, StorageAction.perform_ofExcept] at performed
  refine ⟨notes, quiet, ?_⟩
  unfold produce
  rw [perform_bind_of_ok (perform_attempt performed)]
  dsimp only
  rw [undrawn]
  rfl

/-- Behind the drawing everything is saved. -/
theorem perform_produce_of_drawn {scene : Scene} {drawing : String} {after : Storage}
    {saved : Except Fault Unit}
    (succeeded : compiled options.verbose text.toList options.dimension = .ok scene)
    (drawn : scene.toSvg (!options.noGrid) = .ok drawing)
    (stored : (saving options scene).perform storage = (saved, after)) :
    Exists fun notes => (options.verbose = false -> notes = "") ∧
      perform (produce options text) streams storage =
        (((whenSaved saved).1, ⟨streams.output ++ (drawing ++ "\n"),
          streams.errors ++ notes ++ (whenSaved saved).2⟩), after) := by
  rcases carriesOut_compile options.verbose text.toList options.dimension streams storage
    with ⟨notes, quiet, performed⟩
  rw [succeeded, StorageAction.perform_ofExcept] at performed
  rcases carriesOut_saveAll options scene
    ⟨streams.output ++ (drawing ++ "\n"), streams.errors ++ notes⟩ storage
    with ⟨more, quietToo, carried⟩
  rw [stored] at carried
  refine ⟨notes ++ more, fun silent => ?_, ?_⟩
  · rw [quiet silent, quietToo silent]
    rfl
  unfold produce
  rw [perform_bind_of_ok (perform_attempt performed)]
  dsimp only
  rw [drawn]
  rw [perform_bind_of_ok (perform_pureStep _ _ _), perform_bind_of_ok (perform_print _ _ _)]
  rw [String.append_assoc] at carried
  -- The handler reports faults of the storage; every other fault passes through it.
  cases saved with
  | ok done =>
      rw [perform_bind_of_ok (perform_tryCatch_of_ok (perform_bind_of_ok carried))]
      dsimp only [whenSaved]
      rw [String.append_empty]
      rfl
  | error fault =>
      rw [perform_bind_congr (perform_tryCatch_of_error (perform_bind_of_error carried))]
      cases fault with
      | storage fault =>
          dsimp only [whenSaved]
          rw [← @String.append_assoc (streams.errors ++ (notes ++ more))]
          rfl
      | _ =>
          dsimp only [whenSaved]
          rw [String.append_empty]
          rfl

end

/-! ## Runs -/

/-- How a run ends, and what it leaves behind. -/
def conclude : (Except Fault Nat × Streams) × Storage -> Outcome × Storage
  | ((.ok status, streams), after) => (⟨.exited status, streams.output, streams.errors⟩, after)
  | ((.error fault, streams), after) => (⟨.stopped fault, streams.output, streams.errors⟩, after)

section

variable {arguments : List String} {input : String} {storage : Storage} {options : Options}

theorem run_of_accepted (accepted : Options.parse arguments = .ok options) :
    run arguments input storage = conclude (perform (work options input) ⟨"", ""⟩ storage) := by
  rcases performed : perform (work options input) ⟨"", ""⟩ storage
    with ⟨⟨fault | status, streams⟩, after⟩
  all_goals
    unfold perform at performed
    unfold run
    rw [accepted]
    dsimp only
    rw [performed]
    rfl

theorem run_of_text {text : String} (accepted : Options.parse arguments = .ok options)
    (obtained : sourceText options input storage = .ok text) :
    run arguments input storage =
      conclude (perform (produce options text) ⟨"", ""⟩ storage) := by
  have performed := perform_source options input ⟨"", ""⟩ storage
  rw [obtained] at performed
  rw [run_of_accepted accepted]
  unfold work
  rw [perform_bind_of_ok (perform_attempt performed)]

theorem run_of_unread {fault : Fault} (accepted : Options.parse arguments = .ok options)
    (unread : sourceText options input storage = .error fault) :
    run arguments input storage =
      conclude (((whenUnread fault).1, ⟨"", (whenUnread fault).2⟩), storage) := by
  have performed := perform_source options input ⟨"", ""⟩ storage
  rw [unread] at performed
  rw [run_of_accepted accepted]
  unfold work
  rw [perform_bind_of_ok (perform_attempt performed)]
  cases fault <;> rfl

end

end Session
end BattleMap
