import Mathlib.Data.List.Infix
import BattleMap.Proofs.Outcome
import BattleMap.Scene.Saving

namespace BattleMap

/-!
# What saving changes in the storage

An action on the storage may fail halfway, and what it has done by then stays.  So
it is said of every action which locations it can change at all, whether it succeeds
or not: a file that is written changes the place where its path leads, and a
directory that is made stands where nothing stood before.  Changes of this kind can
follow each other, which is why the actions are taken apart step by step.

Where a path leads is spelled out by its components alone.  The storage decides only
whether it can be followed there.
-/

namespace Path

/-- The location where a path leads, if it can be followed. -/
def target (path : String) : Location :=
  (components path).foldl Storage.enter (if isAbsolute path then Storage.absoluteRoot else [])

/-- The paths of the directories around a file, from the outermost to the innermost. -/
def enclosing (path : String) : List String :=
  (steps (directoryOf path)).inits.map (ofSteps (isAbsolute (directoryOf path)))

/-- Whether a location is that of a directory that the steps pass through.  They are
given from the innermost to the outermost. -/
def IsAround (absolute : Bool) (inward : List String) (location : Location) : Prop :=
  Exists fun outer => outer <:+ inward ∧ location = target (ofSteps absolute outer.reverse)

theorem mem_enclosing_of_suffix {path : String} {outer : List String}
    (part : outer <:+ (steps (directoryOf path)).reverse) :
    ofSteps (isAbsolute (directoryOf path)) outer.reverse ∈ enclosing path := by
  refine List.mem_map.mpr ⟨outer.reverse, (List.mem_inits _ _).mpr ?_, rfl⟩
  rwa [← List.reverse_suffix, List.reverse_reverse]

end Path

namespace Storage

variable {storage after : Storage} {path : String}

theorem eq_of_follow_eq_ok {components : List String} {start location : Location}
    (followed : storage.follow start components = .ok location) :
    location = components.foldl enter start := by
  induction components generalizing start with
  | nil => exact (Except.ok.inj followed).symm
  | cons component rest later =>
      unfold follow at followed
      split at followed
      · cases followed
      · cases followed
      · split at followed
        · cases followed
        · exact later followed

theorem eq_target_of_locate_eq_ok {location : Location}
    (located : storage.locate path = .ok location) : location = Path.target path := by
  unfold locate at located
  split at located
  · cases located
  · split at located
    · cases located
    · exact eq_of_follow_eq_ok located

theorem entry?_put_of_ne {location other : Location} (entry : Entry) (ne : other ≠ location) :
    Storage.entry? (storage.put location entry) other = storage.entry? other := by
  have kept : ((location, entry) :: storage.entries.filter fun entry => entry.1 ≠ location).find?
      (fun entry => entry.1 = other) = storage.entries.find? fun entry => entry.1 = other := by
    rw [List.find?_cons_of_neg (by simpa using ne.symm), List.find?_filter]
    congr 1
    funext entry
    by_cases same : entry.1 = other
    · simp [same, ne]
    · simp [same]
  unfold entry? put
  dsimp only
  rw [kept]

theorem entry?_put_self {location : Location} {entry : Entry}
    (free : storage.entry? location ≠ some .directory) :
    Storage.entry? (storage.put location entry) location = some entry := by
  have inside : ¬ (isEnclosing location || location = absoluteRoot) = true := by
    intro isRoot
    apply free
    unfold entry?
    rw [if_pos isRoot]
  unfold entry? put
  rw [if_neg inside]
  simp

/-- Between two storages only certain files have changed, and of certain directories
some have been made where nothing stood. -/
def Changes (files directories : Location -> Prop) (before after : Storage) : Prop :=
  forall location, after.entry? location ≠ before.entry? location ->
    files location ∨ (directories location ∧ before.entry? location = none ∧
      after.entry? location = some .directory)

namespace Changes

variable {files directories : Location -> Prop} {first second third : Storage}

theorem refl (storage : Storage) : storage.Changes files directories storage :=
  fun _ changed => absurd rfl changed

/-- A directory that has been made is there for whatever follows. -/
theorem trans (early : first.Changes files directories second)
    (late : second.Changes files directories third) : first.Changes files directories third := by
  intro location changed
  by_cases same : second.entry? location = first.entry? location
  · rcases late location (same ▸ changed) with isFile | ⟨isDirectory, missing, made⟩
    · exact .inl isFile
    · exact .inr ⟨isDirectory, same.symm.trans missing, made⟩
  · rcases early location same with isFile | ⟨isDirectory, missing, made⟩
    · exact .inl isFile
    · by_cases kept : third.entry? location = second.entry? location
      · exact .inr ⟨isDirectory, missing, kept.trans made⟩
      · rcases late location kept with isFile | ⟨_, absent, _⟩
        · exact .inl isFile
        · cases made.symm.trans absent

theorem mono {moreFiles moreDirectories : Location -> Prop}
    (changes : first.Changes files directories second)
    (filesIn : forall location, files location -> moreFiles location)
    (directoriesIn : forall location, directories location -> moreDirectories location) :
    first.Changes moreFiles moreDirectories second := fun location changed =>
  (changes location changed).imp (filesIn location) fun made =>
    ⟨directoriesIn location made.1, made.2⟩

end Changes

/-- A file is written where its path leads, and not in place of a directory. -/
theorem eq_put_of_write_eq_ok {content : Content}
    (written : storage.write path content = .ok after) :
    after = storage.put (Path.target path) (.file content) ∧
      storage.entry? (Path.target path) ≠ some .directory := by
  rcases Outcome.bind_eq_ok.mp written with ⟨location, placed, done⟩
  cases done
  unfold placeForFile at placed
  dsimp only at placed
  split at placed
  · rcases Outcome.bind_eq_ok.mp placed with ⟨_, _, impossible⟩
    cases impossible
  · rcases Outcome.bind_eq_ok.mp placed with ⟨found, located, checked⟩
    split at checked
    · cases checked
    · cases checked
      rename_i noDirectory
      rw [← eq_target_of_locate_eq_ok located]
      exact ⟨rfl, noDirectory⟩

/-- A directory is made where its path leads, if nothing stands there. -/
theorem eq_put_of_makeDirectory_eq_ok (made : storage.makeDirectory path = .ok after) :
    after = storage.put (Path.target path) .directory ∧
      storage.entry? (Path.target path) = none := by
  rcases Outcome.bind_eq_ok.mp made with ⟨location, located, checked⟩
  rw [eq_target_of_locate_eq_ok located] at checked
  split at checked
  · cases checked
  · cases checked
    rename_i free
    exact ⟨rfl, Option.not_isSome_iff_eq_none.mp free⟩

theorem changes_of_write {content : Content} (written : storage.write path content = .ok after) :
    storage.Changes (· = Path.target path) (fun _ => False) after := by
  intro location changed
  by_contra kept
  rw [(eq_put_of_write_eq_ok written).1, entry?_put_of_ne _ fun same => kept (.inl same)] at changed
  exact changed rfl

theorem changes_of_makeDirectory (made : storage.makeDirectory path = .ok after) :
    storage.Changes (fun _ => False) (· = Path.target path) after := by
  rcases eq_put_of_makeDirectory_eq_ok made with ⟨rfl, free⟩
  intro location changed
  by_cases same : location = Path.target path
  · subst same
    exact .inr ⟨rfl, free, entry?_put_self fun taken => by cases free.symm.trans taken⟩
  · rw [entry?_put_of_ne _ same] at changed
    exact absurd rfl changed

end Storage

namespace StorageAction

variable {α β : Type} {files directories : Location -> Prop}

/-- What an action comes to, and the storage that it leaves. -/
def perform (action : StorageAction α) (storage : Storage) : Except Fault α × Storage :=
  action.run.run storage

@[simp] theorem perform_ofExcept (result : Except Fault α) (storage : Storage) :
    perform (ofExcept result) storage = (result, storage) := by
  cases result <;> rfl

theorem perform_bind_of_ok {action : StorageAction α} {next : α -> StorageAction β}
    {storage after : Storage} {result : α} (performed : action.perform storage = (.ok result, after)) :
    perform (action >>= next) storage = (next result).perform after := by
  change (ExceptT.bindCont next (action.perform storage).1).run (action.perform storage).2 = _
  rw [performed]
  rfl

theorem perform_bind_of_error {action : StorageAction α} {next : α -> StorageAction β}
    {storage after : Storage} {fault : Fault}
    (performed : action.perform storage = (.error fault, after)) :
    perform (action >>= next) storage = (.error fault, after) := by
  change (ExceptT.bindCont next (action.perform storage).1).run (action.perform storage).2 = _
  rw [performed]
  rfl

theorem ofExcept_bind (result : Except Fault α) (next : α -> Except Fault β) :
    ofExcept (result >>= next) = ofExcept result >>= fun middle => ofExcept (next middle) := by
  cases result <;> rfl

theorem perform_ofExcept_bind (result : Except Fault α) (next : α -> StorageAction β)
    (storage : Storage) :
    perform (ofExcept result >>= next) storage =
      match result with
      | .ok middle => (next middle).perform storage
      | .error fault => (.error fault, storage) := by
  cases result <;> rfl

theorem perform_get_bind (next : Storage -> StorageAction α) (storage : Storage) :
    perform (get >>= next) storage = (next storage).perform storage := rfl

/-- Nothing is read or written at a path that no file can have. -/
theorem perform_requireUsable_bind (path : String) (next : Unit -> StorageAction α)
    (storage : Storage) :
    perform (requireUsable path >>= next) storage =
      if Path.isUnusable path then (.error .unusablePath, storage)
      else (next ()).perform storage := by
  unfold requireUsable
  split <;> rfl

theorem perform_settle_bind (path : String) (outcome : Except StorageCause α)
    (next : α -> StorageAction β) (storage : Storage) :
    perform (settle path outcome >>= next) storage =
      match outcome with
      | .ok result => (next result).perform storage
      | .error cause => (.error (.storage ⟨cause, path⟩), storage) := by
  cases outcome <;> rfl

theorem perform_write (path : String) (content : Content) (storage : Storage) :
    perform (write path content) storage =
      if Path.isUnusable path then (.error .unusablePath, storage)
      else match storage.write path content with
        | .ok after => (.ok (), after)
        | .error cause => (.error (.storage ⟨cause, path⟩), storage) := by
  unfold write
  rw [perform_requireUsable_bind, perform_get_bind, perform_settle_bind]
  cases storage.write path content <;> rfl

/-! ## Actions taken apart -/

/-- Whatever an action comes to, only certain files and directories have changed. -/
def ChangesOnly (files directories : Location -> Prop) (action : StorageAction α) : Prop :=
  forall storage : Storage, storage.Changes files directories (action.perform storage).2

theorem ChangesOnly.bind {action : StorageAction α} {next : α -> StorageAction β}
    (early : ChangesOnly files directories action)
    (late : forall result, ChangesOnly files directories (next result)) :
    ChangesOnly files directories (action >>= next) := by
  intro storage
  have first := early storage
  rcases performed : action.perform storage with ⟨fault | result, after⟩
  · rw [perform_bind_of_error performed]
    rwa [performed] at first
  · rw [perform_bind_of_ok performed]
    rw [performed] at first
    exact first.trans (late result after)

theorem ChangesOnly.mono {moreFiles moreDirectories : Location -> Prop} {action : StorageAction α}
    (changes : ChangesOnly files directories action)
    (filesIn : forall location, files location -> moreFiles location)
    (directoriesIn : forall location, directories location -> moreDirectories location) :
    ChangesOnly moreFiles moreDirectories action :=
  fun storage => (changes storage).mono filesIn directoriesIn

theorem changesOnly_ofExcept (result : Except Fault α) :
    ChangesOnly files directories (ofExcept result) := by
  intro storage
  rw [perform_ofExcept]
  exact .refl storage

theorem changesOnly_write (path : String) (content : Content) :
    ChangesOnly (· = Path.target path) (fun _ => False) (write path content) := by
  intro storage
  rw [perform_write]
  split
  · exact .refl storage
  · split
    · rename_i after written
      exact Storage.changes_of_write written
    · exact .refl storage

theorem changesOnly_ensureDirectory (path : String) :
    ChangesOnly (fun _ => False) (· = Path.target path) (ensureDirectory path) := by
  intro storage
  unfold ensureDirectory
  rw [perform_get_bind]
  split
  · exact .refl storage
  · split
    · exact .refl storage
    · rw [perform_settle_bind]
      split
      · rename_i after made
        exact Storage.changes_of_makeDirectory made
      · exact .refl storage

/-- The directories that are made are among those that the steps lead to, one inside
the other. -/
theorem changesOnly_ensureDirectories (absolute : Bool) (inward : List String) :
    ChangesOnly (fun _ => False) (Path.IsAround absolute inward)
      (ensureDirectories absolute inward) := by
  induction inward with
  | nil =>
      apply (changesOnly_ensureDirectory _).mono
      · intro location impossible
        exact impossible
      · intro location found
        exact ⟨[], List.suffix_rfl, found⟩
  | cons step outer later =>
      have here : ChangesOnly (fun _ => False) (Path.IsAround absolute (step :: outer))
          (ensureDirectory (Path.ofSteps absolute (step :: outer).reverse)) := by
        apply (changesOnly_ensureDirectory _).mono
        · intro location impossible
          exact impossible
        · intro location found
          exact ⟨_, List.suffix_rfl, found⟩
      have around : ChangesOnly (fun _ => False) (Path.IsAround absolute (step :: outer))
          (ensureDirectories absolute outer) := by
        apply later.mono
        · intro location impossible
          exact impossible
        · rintro location ⟨some, part, leads⟩
          exact ⟨some, part.trans (List.suffix_cons step outer), leads⟩
      -- If the directory cannot be made at once, those around it are made before it.
      intro storage
      unfold ensureDirectories
      dsimp only
      rw [perform_get_bind]
      split
      · exact around.bind (fun _ => here) storage
      · exact here storage

theorem changesOnly_saveRecord (path : String) (value : Json) :
    ChangesOnly (· = Path.target path)
      (fun location => Exists fun directory => directory ∈ Path.enclosing path ∧
        location = Path.target directory) (saveRecord path value) := by
  have directories : ChangesOnly (· = Path.target path)
      (fun location => Exists fun directory => directory ∈ Path.enclosing path ∧
        location = Path.target directory)
      (ensureDirectories (Path.isAbsolute (Path.directoryOf path))
        (Path.steps (Path.directoryOf path)).reverse) := by
    apply (changesOnly_ensureDirectories _ _).mono
    · intro location impossible
      exact False.elim impossible
    · intro location found
      rcases found with ⟨outer, part, leads⟩
      exact ⟨_, Path.mem_enclosing_of_suffix part, leads⟩
  have file : forall content, ChangesOnly (· = Path.target path)
      (fun location => Exists fun directory => directory ∈ Path.enclosing path ∧
        location = Path.target directory) (write path content) := fun content =>
    (changesOnly_write path content).mono (fun _ found => found) fun _ impossible => impossible.elim
  intro storage
  unfold saveRecord
  dsimp only
  rw [perform_requireUsable_bind]
  split
  · exact .refl storage
  · refine directories.bind (fun _ => ?_) storage
    split
    · exact file _
    · exact (file _).bind fun _ => changesOnly_ofExcept (.error .tooManyDigits)

end StorageAction

namespace Scene

theorem changesOnly_savePainting (scene : Scene) (withGrid : Bool) (path : String) :
    StorageAction.ChangesOnly (· = Path.target path) (fun _ => False)
      (scene.savePainting withGrid path) :=
  (StorageAction.changesOnly_ofExcept _).bind fun _ =>
    (StorageAction.changesOnly_ofExcept _).bind fun _ => StorageAction.changesOnly_write path _

theorem changesOnly_saveRecord (scene : Scene) (path : String) :
    StorageAction.ChangesOnly (· = Path.target path)
      (fun location => Exists fun directory => directory ∈ Path.enclosing path ∧
        location = Path.target directory) (scene.saveRecord path) :=
  (StorageAction.changesOnly_ofExcept _).bind fun _ => StorageAction.changesOnly_saveRecord path _

/-- A painting that cannot be saved leaves everything as it was. -/
theorem eq_of_savePainting_eq_error {scene : Scene} {withGrid : Bool} {path : String}
    {storage after : Storage} {fault : Fault}
    (failed : (scene.savePainting withGrid path).perform storage = (.error fault, after)) :
    after = storage := by
  unfold savePainting at failed
  rw [StorageAction.perform_ofExcept_bind] at failed
  split at failed
  · rw [StorageAction.perform_ofExcept_bind] at failed
    split at failed
    · rw [StorageAction.perform_write] at failed
      split at failed
      · exact (congrArg Prod.snd failed).symm
      · split at failed
        · cases failed
        · exact (congrArg Prod.snd failed).symm
    · exact (congrArg Prod.snd failed).symm
  · exact (congrArg Prod.snd failed).symm

end Scene
end BattleMap
