import BattleMap.Geometry.Winding
import BattleMap.Mask.Regions
import BattleMap.Scene.Compile
import BattleMap.Scene.Saving
import BattleMap.Session.Options

namespace BattleMap

/-!
# Sessions

A session is one run of the program: it reads a map from a file or from its
input, compiles it, writes the vector drawing to its output, and saves a
painting and a record if they are asked for.  What it does to the world is a
change of the storage and an outcome, so a session is a function like any other.

Nothing is written before the map is compiled.  The drawing is put out before
the painting is saved, and the painting is saved before the record, so whatever
comes after a failure is left undone.
-/

/-- How a session ends. -/
inductive Ending where
  /-- With an exit status. -/
  | exited (status : Nat)
  /-- Because its arguments were not understood. -/
  | misused (message : String)
  /-- By a fault that it does not report itself. -/
  | stopped (fault : Fault)
deriving DecidableEq, Repr

/-- What a session leaves behind beside the storage. -/
structure Outcome where
  ending : Ending
  output : String
  errors : String
deriving DecidableEq, Repr

namespace Session

/-- The short form of the options, which comes before any explanation. -/
def usageText : String :=
  "usage: ttmap [-h] [-f FILE] [-d DIMENSION] [--png PNG] [--json JSON]\n" ++
  "             [--no-grid] [-v]\n"

def helpText : String :=
  usageText ++ String.intercalate "\n" [
    "",
    "Compile a TTRPG grid map description into SVG.",
    "",
    "options:",
    "  -h, --help            show this help message and exit",
    "  -f FILE, --file FILE  Input map file (default: read stdin)",
    "  -d DIMENSION, --dimension DIMENSION",
    "                        Map cell dimension in pixels (default 10)",
    "  --png PNG             Also write a PNG preview to this path",
    "  --json JSON           Also write the display model as JSON to this path",
    "  --no-grid             Omit the background grid cells",
    "  -v, --verbose         Debug logging on stderr",
    ""]

def misuseText (message : String) : String :=
  "ttmap: error: " ++ message

/-! ## The log -/

def debugLine (stage text : String) : String :=
  "DEBUG ttmap." ++ stage ++ ": " ++ text ++ "\n"

def wroteLine (path : String) : String :=
  "INFO ttmap.cli: wrote " ++ path ++ "\n"

def readNote (document : Document) : String :=
  debugLine "parser" ("parsed grid " ++ Decimal.ofInt document.grid.item.width ++ "x" ++
    Decimal.ofInt document.grid.item.height ++ " with " ++
    Decimal.ofNat document.statements.length ++ " commands")

def traceNote (floor : Mask) (loops : List (Loop Int)) : String :=
  debugLine "trace" ("traced " ++ Decimal.ofNat floor.boundary.length ++ " boundary edges into " ++
    Decimal.ofNat loops.length ++ " loops")

/-- What is noted about the floor plan: its loops, counted once by their areas
and once by the regions and holes of the cells. -/
def floorNote (floor : Mask) (loops : List (Loop Int)) : Except Fault String := do
  let holes := (← loops.mapM fun loop => loop.toNumbers.isHole).countP id
  return debugLine "compiler" (Decimal.ofNat floor.filledCount ++ "/" ++
    Decimal.ofNat (floor.width * floor.height) ++ " cells filled; " ++
    Decimal.ofNat (loops.length - holes) ++ " outer loops (" ++ Decimal.ofNat floor.regionCount ++
    " regions), " ++ Decimal.ofNat holes ++ " hole loops (" ++ Decimal.ofNat floor.holeCount ++
    " holes)")

def sceneNote (scene : Scene) : Except Fault String := do
  return debugLine "compiler" ("compiled " ++ Decimal.ofNat scene.loops.length ++ " loops, " ++
    Decimal.ofNat scene.lines.length ++ " lines, " ++ Decimal.ofNat scene.circles.length ++
    " circles, " ++ Decimal.ofNat scene.squares.length ++ " squares at " ++
    (← scene.cellSize.briefText) ++ "px/cell")

/-! ## The work -/

/-- What a session has put out so far. -/
structure Streams where
  output : String
  errors : String

/-- A part of a session: it may fail, and what it has put out and stored by then
stays. -/
abbrev Work := ExceptT Fault (StateT Streams (StateM Storage))

def print (text : String) : Work Unit :=
  modify fun streams => { streams with output := streams.output ++ text }

/-- Put out a line for the log, if the log is wanted. -/
def note (verbose : Bool) (line : String) : Work Unit :=
  if verbose then modify fun streams => { streams with errors := streams.errors ++ line }
  else return

/-- Report a fault to the user. -/
def complain (text : String) : Work Unit :=
  modify fun streams => { streams with errors := streams.errors ++ text ++ "\n" }

/-- A step without effects. -/
def pureStep : Except Fault α -> Work α
  | .ok result => return result
  | .error fault => throw fault

/-- A step on the storage. -/
def storageStep (action : StorageAction α) : Work α := do
  let (result, storage) := action.run.run (← getThe Storage)
  set storage
  pureStep result

/-- The size of a cell: the one that is asked for, or the usual one. -/
def cellSize : RequestedSize -> Except Fault Number
  | .usual => .ok Scene.defaultCellSize
  | .pixels x => .ok (.fraction x)
  | .blank => .error .blankCellSize

/-- The same as `Scene.ofText`, with notes for the log after each stage.  The
size of a cell is not looked at before the outline has been traced. -/
def compile (verbose : Bool) (text : List Char) (size : RequestedSize) : Work Scene := do
  let document ← pureStep (Document.read text)
  note verbose (readNote document)
  let survey ← pureStep document.survey
  let loops ← pureStep survey.floor.outline
  note verbose (traceNote survey.floor loops)
  if verbose then note verbose (← pureStep (floorNote survey.floor loops))
  let scene ← pureStep (survey.scene document.grid.item loops (some (← pureStep (cellSize size))))
  if verbose then note verbose (← pureStep (sceneNote scene))
  return scene

/-- An option that is given an empty text counts as not given. -/
def given? (option : Option String) : Option String :=
  option.filter (· ≠ "")

/-- Save what the options ask for: the painting first, then the record. -/
def saveAll (options : Options) (scene : Scene) : Work Unit := do
  if let some path := given? options.png then
    storageStep (scene.savePainting (!options.noGrid) path)
    note options.verbose (wroteLine path)
  if let some path := given? options.json then
    storageStep (scene.saveRecord path)
    note options.verbose (wroteLine path)

/-- The map: the file that is named, or else the input. -/
def source (options : Options) (input : String) : Work String :=
  match given? options.file with
  | some path => storageStep (StorageAction.readText path)
  | none => return input

/-- Compile a map, draw it, and save what is asked for.  The result is the exit
status. -/
def produce (options : Options) (text : String) : Work Nat := do
  match ← tryCatch (.ok <$> compile options.verbose text.toList options.dimension)
      (fun fault => return Except.error fault) with
  | .error (.diagnosed diagnostic) =>
      complain diagnostic.report
      return 1
  | .error fault => throw fault
  | .ok scene =>
      print ((← pureStep (scene.toSvg (!options.noGrid))) ++ "\n")
      try
        saveAll options scene
        return 0
      catch
        | .storage fault =>
            complain ("ERROR: could not write output: " ++ fault.message)
            return 2
        | fault => throw fault

/-- The work of a session with the given options.  The result is the exit status. -/
def work (options : Options) (input : String) : Work Nat := do
  match ← tryCatch (.ok <$> source options input) (fun fault => return Except.error fault) with
  | .error (.storage fault) =>
      complain ("ERROR: could not read " ++ fault.path ++ ": " ++ fault.message)
      return 2
  | .error fault => throw fault
  | .ok text => produce options text

/-- One run of the program. -/
def run (arguments : List String) (input : String) (storage : Storage) : Outcome × Storage :=
  match Options.parse arguments with
  | .error .helpWanted => (⟨.exited 0, helpText, ""⟩, storage)
  | .error (.misuse message) => (⟨.misused message, "", ""⟩, storage)
  | .ok options =>
      let ((result, streams), after) := ((work options input).run.run ⟨"", ""⟩).run storage
      let ending := match result with
        | .ok status => .exited status
        | .error fault => .stopped fault
      (⟨ending, streams.output, streams.errors⟩, after)

end Session
end BattleMap
