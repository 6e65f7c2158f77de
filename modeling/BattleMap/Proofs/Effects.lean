import BattleMap.Proofs.Conduct

namespace BattleMap

/-!
# What a run leaves behind

A run that has a map goes one of four ways: the map does not compile, its drawing
cannot be made, something cannot be saved, or all is well.  Only on the last two of
them is the storage touched at all, and by then the whole drawing has been put out.
So a map with a mistake leaves nothing but the report of that mistake, whatever the
options ask for.
-/

namespace Options

/-- The locations of the files that are asked for. -/
def Names (options : Options) (location : Location) : Prop :=
  Exists fun path =>
    (Session.given? options.png = some path ∨ Session.given? options.json = some path) ∧
      location = Path.target path

/-- The locations of the directories around the record that is asked for. -/
def Needs (options : Options) (location : Location) : Prop :=
  Exists fun path => Exists fun directory => Session.given? options.json = some path ∧
    directory ∈ Path.enclosing path ∧ location = Path.target directory

end Options

namespace Session

theorem changesOnly_paintingSaving (options : Options) (scene : Scene) :
    StorageAction.ChangesOnly options.Names options.Needs (paintingSaving options scene) := by
  unfold paintingSaving
  split
  · rename_i path named
    apply (Scene.changesOnly_savePainting scene _ path).mono
    · intro location found
      exact ⟨path, .inl named, found⟩
    · intro location impossible
      exact False.elim impossible
  · exact StorageAction.changesOnly_ofExcept (.ok ())

theorem changesOnly_recordSaving (options : Options) (scene : Scene) :
    StorageAction.ChangesOnly options.Names options.Needs (recordSaving options scene) := by
  unfold recordSaving
  split
  · rename_i path named
    apply (Scene.changesOnly_saveRecord scene path).mono
    · intro location found
      exact ⟨path, .inr named, found⟩
    · intro location found
      rcases found with ⟨directory, around, leads⟩
      exact ⟨path, directory, named, around, leads⟩
  · exact StorageAction.changesOnly_ofExcept (.ok ())

theorem changesOnly_saving (options : Options) (scene : Scene) :
    StorageAction.ChangesOnly options.Names options.Needs (saving options scene) :=
  (changesOnly_paintingSaving options scene).bind fun _ => changesOnly_recordSaving options scene

section

variable {arguments : List String} {input text : String} {storage : Storage} {options : Options}

/-! ## The four ways -/

theorem run_of_uncompiled {fault : Fault} (accepted : Options.parse arguments = .ok options)
    (obtained : sourceText options input storage = .ok text)
    (failed : compiled options.verbose text.toList options.dimension = .error fault) :
    Exists fun notes => (options.verbose = false -> notes = "") ∧
      run arguments input storage = conclude
        (((whenUncompiled fault).1, ⟨"", notes ++ (whenUncompiled fault).2⟩), storage) := by
  rcases perform_produce_of_error ⟨"", ""⟩ storage failed with ⟨notes, quiet, performed⟩
  rw [String.empty_append] at performed
  exact ⟨notes, quiet, by rw [run_of_text accepted obtained, performed]⟩

theorem run_of_undrawn {scene : Scene} {fault : Fault}
    (accepted : Options.parse arguments = .ok options)
    (obtained : sourceText options input storage = .ok text)
    (succeeded : compiled options.verbose text.toList options.dimension = .ok scene)
    (undrawn : scene.toSvg (!options.noGrid) = .error fault) :
    Exists fun notes => run arguments input storage = (⟨.stopped fault, "", notes⟩, storage) := by
  rcases perform_produce_of_undrawn ⟨"", ""⟩ storage succeeded undrawn with ⟨notes, _, performed⟩
  rw [String.empty_append] at performed
  exact ⟨notes, by rw [run_of_text accepted obtained, performed]; rfl⟩

/-- Once the drawing is put out, it only depends on the saving how a run ends. -/
theorem run_of_drawn {scene : Scene} {drawing : String} {saved : Except Fault Unit}
    {after : Storage} (accepted : Options.parse arguments = .ok options)
    (obtained : sourceText options input storage = .ok text)
    (succeeded : compiled options.verbose text.toList options.dimension = .ok scene)
    (drawn : scene.toSvg (!options.noGrid) = .ok drawing)
    (stored : (saving options scene).perform storage = (saved, after)) :
    Exists fun notes => (options.verbose = false -> notes = "") ∧
      run arguments input storage = conclude
        (((whenSaved saved).1, ⟨drawing ++ "\n", notes ++ (whenSaved saved).2⟩), after) := by
  rcases perform_produce_of_drawn ⟨"", ""⟩ storage succeeded drawn stored with
    ⟨notes, quiet, performed⟩
  rw [String.empty_append, String.empty_append] at performed
  exact ⟨notes, quiet, by rw [run_of_text accepted obtained, performed]⟩

theorem run_of_diagnosed {diagnostic : Diagnostic}
    (accepted : Options.parse arguments = .ok options)
    (obtained : sourceText options input storage = .ok text)
    (failed : compiled options.verbose text.toList options.dimension =
      .error (.diagnosed diagnostic)) :
    Exists fun notes => (options.verbose = false -> notes = "") ∧
      run arguments input storage =
        (⟨.exited 1, "", notes ++ (diagnostic.report ++ "\n")⟩, storage) :=
  run_of_uncompiled accepted obtained failed

theorem output_conclude (performed : Except Fault Nat × Streams) (after : Storage) :
    (conclude (performed, after)).1.output = performed.2.output := by
  rcases performed with ⟨fault | status, streams⟩ <;> rfl

theorem storage_conclude (performed : Except Fault Nat × Streams) (after : Storage) :
    (conclude (performed, after)).2 = after := by
  rcases performed with ⟨fault | status, streams⟩ <;> rfl

/-- If the storage is touched, the whole drawing has been put out before. -/
theorem drawn_of_changed (accepted : Options.parse arguments = .ok options)
    (obtained : sourceText options input storage = .ok text)
    (changed : (run arguments input storage).2 ≠ storage) :
    Exists fun scene => Exists fun drawing =>
      compiled options.verbose text.toList options.dimension = .ok scene ∧
        scene.toSvg (!options.noGrid) = .ok drawing ∧
        (run arguments input storage).1.output = drawing ++ "\n" := by
  cases succeeded : compiled options.verbose text.toList options.dimension with
  | error fault =>
      rcases run_of_uncompiled accepted obtained succeeded with ⟨notes, _, ran⟩
      rw [ran] at changed
      exact absurd (storage_conclude _ _) changed
  | ok scene =>
      cases drawn : scene.toSvg (!options.noGrid) with
      | error fault =>
          rcases run_of_undrawn accepted obtained succeeded drawn with ⟨notes, ran⟩
          rw [ran] at changed
          exact absurd rfl changed
      | ok drawing =>
          rcases run_of_drawn accepted obtained succeeded drawn rfl with ⟨notes, _, ran⟩
          exact ⟨scene, drawing, rfl, drawn, by rw [ran, output_conclude]⟩

/-- Only the files that are asked for are touched, and missing directories around the
record. -/
theorem changes_run (accepted : Options.parse arguments = .ok options)
    (obtained : sourceText options input storage = .ok text) :
    storage.Changes options.Names options.Needs (run arguments input storage).2 := by
  by_cases changed : (run arguments input storage).2 = storage
  · rw [changed]
    exact .refl storage
  · rcases drawn_of_changed accepted obtained changed with ⟨scene, drawing, succeeded, drawn, _⟩
    rcases run_of_drawn accepted obtained succeeded drawn rfl with ⟨notes, _, ran⟩
    rw [ran, storage_conclude]
    exact changesOnly_saving options scene storage

/-- If the painting cannot be saved, nothing is. -/
theorem run_of_unpainted {scene : Scene} {drawing path : String} {fault : StorageFault}
    {after : Storage} (accepted : Options.parse arguments = .ok options)
    (obtained : sourceText options input storage = .ok text)
    (succeeded : compiled options.verbose text.toList options.dimension = .ok scene)
    (drawn : scene.toSvg (!options.noGrid) = .ok drawing)
    (named : given? options.png = some path)
    (unpainted : (scene.savePainting (!options.noGrid) path).perform storage =
      (.error (.storage fault), after)) :
    Exists fun notes => (options.verbose = false -> notes = "") ∧
      run arguments input storage = (⟨.exited 2, drawing ++ "\n",
        notes ++ ("ERROR: could not write output: " ++ fault.message ++ "\n")⟩, storage) := by
  have painting : (paintingSaving options scene).perform storage =
      (.error (.storage fault), storage) := by
    unfold paintingSaving
    rw [named, unpainted, Scene.eq_of_savePainting_eq_error unpainted]
  exact run_of_drawn accepted obtained succeeded drawn
    (StorageAction.perform_bind_of_error painting)

/-- A map with a mistake leaves only the report of the mistake.  Whatever is touched in
the storage is asked for, and comes behind a drawing that is put out as a whole.  Without the
log, what is compiled is the scene of the text. -/
theorem run_effects (accepted : Options.parse arguments = .ok options)
    (obtained : sourceText options input storage = .ok text) :
    (forall diagnostic,
      compiled options.verbose text.toList options.dimension = .error (.diagnosed diagnostic) ->
      Exists fun notes => (options.verbose = false -> notes = "") ∧
        run arguments input storage =
          (⟨.exited 1, "", notes ++ (diagnostic.report ++ "\n")⟩, storage)) ∧
    ((run arguments input storage).2 ≠ storage -> Exists fun scene => Exists fun drawing =>
      compiled options.verbose text.toList options.dimension = .ok scene ∧
        scene.toSvg (!options.noGrid) = .ok drawing ∧
        (run arguments input storage).1.output = drawing ++ "\n") ∧
    storage.Changes options.Names options.Needs (run arguments input storage).2 ∧
    (forall scene drawing path fault after,
      compiled options.verbose text.toList options.dimension = .ok scene ->
      scene.toSvg (!options.noGrid) = .ok drawing -> given? options.png = some path ->
      (scene.savePainting (!options.noGrid) path).perform storage =
        (.error (.storage fault), after) ->
      Exists fun notes => (options.verbose = false -> notes = "") ∧
        run arguments input storage = (⟨.exited 2, drawing ++ "\n",
          notes ++ ("ERROR: could not write output: " ++ fault.message ++ "\n")⟩, storage)) ∧
    (options.verbose = false -> forall pixels, cellSize options.dimension = .ok pixels ->
      compiled options.verbose text.toList options.dimension =
        Scene.ofText text.toList (some pixels)) :=
  ⟨fun _ failed => run_of_diagnosed accepted obtained failed,
    drawn_of_changed accepted obtained, changes_run accepted obtained,
    fun _ _ _ _ _ succeeded drawn named unpainted =>
      run_of_unpainted accepted obtained succeeded drawn named unpainted,
    fun quiet _ asked => quiet ▸ compiled_eq_ofText asked text.toList⟩

end

/-! ## A painting is asked for where there is no directory -/

def savingArguments : List String := ["--png", "plans/plan.png", "--json", "plan.json"]

def savingOptions : Options := ⟨none, .usual, some "plans/plan.png", some "plan.json", false, false⟩

def bareScene : Scene := ⟨Scene.defaultCellSize, ⟨1, 1⟩, [], [], [], []⟩

def bareDrawing : String :=
  "<svg version=\"1.1\" xmlns=\"http://www.w3.org/2000/svg\" width=\"10\" height=\"10\" " ++
    "viewBox=\"0 0 10 10\">\n<rect x=\"0\" y=\"0\" width=\"10\" height=\"10\" fill=\"none\" " ++
    "stroke=\"rgb(200, 200, 200)\"/>\n</svg>"

private theorem parse_savingArguments : Options.parse savingArguments = .ok savingOptions := by
  delta Options.parse Options.carryOut
  with_unfolding_all rfl

/-- A misspelt map is only reported.  From a map of one empty cell there comes a
drawing, but no record behind the painting that has no place. -/
theorem run_savingArguments :
    run savingArguments "gird 1,1" .empty = (⟨.exited 1, "", "[1,1] ERROR: expected statement " ++
      "('grid', 'rect', 'xor', 'line' or 'entity'), got 'gird'\n"⟩, .empty) ∧
    run savingArguments "grid 1,1" .empty = (⟨.exited 2, bareDrawing ++ "\n", "ERROR: could not " ++
      "write output: [Errno 2] No such file or directory: 'plans/plan.png'\n"⟩, .empty) := by
  have misspelt : compiled false "gird 1,1".toList .usual = .error (.diagnosed
      ⟨.unexpected "'gird'" "statement ('grid', 'rect', 'xor', 'line' or 'entity')", some 1, some 1⟩) := by
    decide +kernel
  have succeeded : compiled false "grid 1,1".toList .usual = .ok bareScene := by decide +kernel
  have drawn : bareScene.toSvg true = .ok bareDrawing := by decide +kernel
  have unpainted : ((bareScene.savePainting true "plans/plan.png").perform .empty).1 =
      .error (.storage ⟨.missing, "plans/plan.png"⟩) := by decide +kernel
  constructor
  · rcases @run_effects savingArguments "gird 1,1" _ .empty _ parse_savingArguments rfl with
      ⟨reported, _, _, _⟩
    rcases reported _ misspelt with ⟨notes, quiet, ran⟩
    rw [ran, quiet rfl]
    exact congrArg (·, Storage.empty) (by decide +kernel)
  · rcases @run_effects savingArguments "grid 1,1" _ .empty _ parse_savingArguments rfl with
      ⟨_, _, _, unsaved, _⟩
    rcases unsaved bareScene bareDrawing "plans/plan.png" ⟨.missing, "plans/plan.png"⟩ _ succeeded drawn
      (by decide +kernel) (Prod.ext unpainted rfl) with ⟨notes, quiet, ran⟩
    rw [ran, quiet rfl]
    exact congrArg (·, Storage.empty) (by decide +kernel)

end Session
end BattleMap
