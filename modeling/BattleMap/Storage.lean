import BattleMap.Json
import BattleMap.Painting
import BattleMap.Storage.Path
import BattleMap.Text.Lines

namespace BattleMap

/-!
# Storage

The storage holds directories and files.  An operation that fails reports the
path it was given and leaves everything as it was; an action made of several
operations may have done some of them before it fails, which is why actions
carry the storage along even when they fail.

A painting is stored as such: how a file encodes its pixels is of no concern
here, only that it is no text.
-/

/-- What a file holds. -/
inductive Content where
  | bytes (data : List UInt8)
  | painting (painting : Painting)
deriving DecidableEq

namespace Content

/-- A text as a file holds it. -/
def ofText (text : String) : Content :=
  .bytes text.toUTF8.data.toList

/-- The text in a file, with every line end written as a line feed.  Bytes that
are no text, and paintings, have none. -/
def readText : Content -> Except Fault String
  | .bytes data =>
      match String.fromUTF8? ⟨data.toArray⟩ with
      | some text => .ok (String.ofList (Text.unifyLineEnds text.toList))
      | none => .error .undecodable
  | .painting _ => .error .undecodable

end Content

/-- The names that lead from the working directory to a file or directory.  Only
at its front a location may hold two dots, which lead to enclosing directories;
one that starts with a slash leads from the root of the storage instead. -/
abbrev Location := List String

/-- What stands at a location. -/
inductive Entry where
  | directory
  | file (content : Content)
deriving DecidableEq

/-- All files and directories.  The working directory, those around it and the
root are directories in any case. -/
structure Storage where
  entries : List (Location × Entry)

namespace Storage

def empty : Storage := ⟨[]⟩

/-- The root for paths that start with a slash. -/
def absoluteRoot : Location := ["/"]

/-- The working directory, and the directories around it. -/
def isEnclosing (location : Location) : Bool :=
  location.all (· = "..")

/-- What stands at a location. -/
def entry? (storage : Storage) (location : Location) : Option Entry :=
  if isEnclosing location || location = absoluteRoot then some .directory
  else (storage.entries.find? fun entry => entry.1 = location).map (·.2)

/-- Put something at a location, in place of what was there. -/
def put (storage : Storage) (location : Location) (entry : Entry) : Storage :=
  ⟨(location, entry) :: storage.entries.filter fun other => other.1 ≠ location⟩

/-- The location where one component of a path leads. -/
def enter (location : Location) (component : String) : Location :=
  if component = "" || component = "." then location
  else if component = ".." then
    if location = absoluteRoot then location
    else if isEnclosing location then location ++ [component]
    else location.dropLast
  else location ++ [component]

/-- Follow the components of a path.  Every one of them needs a directory to
start from and must not be too long for a name; what the last one leads to need
not exist. -/
def follow (storage : Storage) : Location -> List String -> Except StorageCause Location
  | location, [] => .ok location
  | location, component :: rest =>
      match storage.entry? location with
      | none => .error .missing
      | some (.file _) => .error .notADirectory
      | some .directory =>
          if Path.nameLimit < component.utf8ByteSize then .error .nameTooLong
          else storage.follow (enter location component) rest

def locate (storage : Storage) (path : String) : Except StorageCause Location :=
  if path = "" then .error .missing
  else if Path.lengthLimit < path.utf8ByteSize then .error .nameTooLong
  else storage.follow (if Path.isAbsolute path then absoluteRoot else []) (Path.components path)

def isDirectory (storage : Storage) (path : String) : Bool :=
  match storage.locate path with
  | .ok location => storage.entry? location = some .directory
  | .error _ => false

/-- The content of the file at a path. -/
def read (storage : Storage) (path : String) : Except StorageCause Content := do
  match storage.entry? (← storage.locate path) with
  | none => throw .missing
  | some .directory => throw .isADirectory
  | some (.file content) => return content

/-- Where a file can be written at a path.  A name with a slash behind it is
taken for a directory, whatever stands there or does not. -/
def placeForFile (storage : Storage) (path : String) : Except StorageCause Location := do
  let bare := String.ofList (path.toList.reverse.dropWhile (· = '/')).reverse
  if Path.endsWithSlash path && bare ≠ "" then
    let _ ← storage.locate bare
    throw .isADirectory
  else
    let location ← storage.locate path
    if storage.entry? location = some .directory then throw .isADirectory
    return location

def write (storage : Storage) (path : String) (content : Content) :
    Except StorageCause Storage := do
  return storage.put (← storage.placeForFile path) (.file content)

def makeDirectory (storage : Storage) (path : String) : Except StorageCause Storage := do
  let location ← storage.locate path
  if (storage.entry? location).isSome then throw .alreadyExists
  return storage.put location .directory

/-- All files, with their locations. -/
def files (storage : Storage) : List (Location × Content) :=
  storage.entries.filterMap fun entry =>
    match entry.2 with
    | .file content => some (entry.1, content)
    | .directory => none

/-- The files that an earlier storage does not have, or not with this content. -/
def changesSince (storage earlier : Storage) : List (Location × Content) :=
  storage.files.filter fun file => earlier.entry? file.1 ≠ some (.file file.2)

/-- The directories that an earlier storage does not have, outer ones first. -/
def newDirectories (storage earlier : Storage) : List Location :=
  storage.entries.reverse.filterMap fun entry =>
    if entry.2 = .directory && earlier.entry? entry.1 ≠ some .directory then some entry.1 else none

def pathOf (location : Location) : String :=
  match location with
  | "/" :: steps => Path.ofSteps true steps
  | steps => Path.ofSteps false steps

/-- A storage with the given files and the directories that they need. -/
def ofFiles (files : List (String × Content)) : Storage :=
  files.foldl (fun storage file =>
    let location := Path.steps file.1
    let parents := (List.range location.length).map fun n => location.take n
    let housed := parents.foldl (fun made parent =>
      if (made.entry? parent).isSome then made else made.put parent .directory) storage
    housed.put location (.file file.2)) empty

end Storage

/-- An action on the storage, which may fail and keeps what it has done by then. -/
abbrev StorageAction := ExceptT Fault (StateM Storage)

namespace StorageAction

/-- Refuse a path that no file or directory can have. -/
def requireUsable (path : String) : StorageAction Unit := do
  if Path.isUnusable path then throw .unusablePath

/-- The outcome of an operation on the storage, whose fault is about the given path. -/
def settle (path : String) : Except StorageCause α -> StorageAction α
  | .ok result => return result
  | .error cause => throw (.storage ⟨cause, path⟩)

def readText (path : String) : StorageAction String := do
  requireUsable path
  match (← settle path ((← get).read path)).readText with
  | .ok text => return text
  | .error fault => throw fault

def write (path : String) (content : Content) : StorageAction Unit := do
  requireUsable path
  set (← settle path ((← get).write path content))

/-- Make a directory; one that is already there will do. -/
def ensureDirectory (path : String) : StorageAction Unit := do
  let storage ← get
  match storage.makeDirectory path with
  | .error .missing => throw (.storage ⟨.missing, path⟩)
  | made => if storage.isDirectory path then return else set (← settle path made)

/-- Make a directory and the directories around it.  The steps are given from
the innermost to the outermost. -/
def ensureDirectories (absolute : Bool) : (inward : List String) -> StorageAction Unit
  | [] => ensureDirectory (Path.ofSteps absolute [])
  | step :: outer => do
      let path := Path.ofSteps absolute (step :: outer).reverse
      match (← get).makeDirectory path with
      | .error .missing =>
          ensureDirectories absolute outer
          ensureDirectory path
      | _ => ensureDirectory path

/-- Write a record to a file, making the directories that its path needs.  A
record with a number that is too long to be written leaves an empty file. -/
def saveRecord (path : String) (value : Json) : StorageAction Unit := do
  let directory := Path.directoryOf path
  requireUsable directory
  ensureDirectories (Path.isAbsolute directory) (Path.steps directory).reverse
  if value.isWritable then write path (.ofText value.render)
  else
    write path (.ofText "")
    throw .tooManyDigits

end StorageAction
end BattleMap
