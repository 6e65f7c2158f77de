import BattleMap.Painting.Png
import BattleMap.Session

namespace BattleMap
namespace Console

/-!
# The program

The program hands a session the part of the file system that its arguments
name.  It carries the changes of the storage over to the file system, and when
this has worked it puts out what the session puts out.  Everything that is decided
is decided by `Session.run`; here is only what touches the world.
-/

/-- The number by which the file system says that a path is a directory. -/
def directoryCode : UInt32 := 21

/-- What stands at a path of the file system. -/
def entryAt (path : String) : IO (Option Entry) := do
  match ← (IO.FS.readBinFile path).toBaseIO with
  | .ok data => return some (.file (.bytes data.data.toList))
  | .error (.inappropriateType _ code _) =>
      return if code = directoryCode then some .directory else none
  | .error _ => return none

/-- Look up everything that a path leads through. -/
def lookUp (storage : Storage) (path : String) : IO Storage := do
  let absolute := Path.isAbsolute path
  let mut known := storage
  let mut location := if absolute then Storage.absoluteRoot else []
  for component in Path.components path do
    location := Storage.enter location component
    if (known.entry? location).isNone then
      if let some entry ← entryAt (Storage.pathOf location) then
        known := known.put location entry
  return known

/-- The paths that the arguments name. -/
def pathsOf (options : Options) : List String :=
  [options.file, options.png, options.json].filterMap fun option => option.bind fun path =>
    if path = "" || Path.isUnusable path then none else some path

def readInput : IO (Option String) := do
  return String.fromUTF8? (← (← IO.getStdin).readBinToEnd)

/-- Write a changed file. -/
def store (file : Location × Content) : IO Unit := do
  match file.2 with
  | .bytes data => IO.FS.writeBinFile (Storage.pathOf file.1) ⟨data.toArray⟩
  | .painting painting =>
      match painting.toPng with
      | .ok data => IO.FS.writeBinFile (Storage.pathOf file.1) data
      | .error fault => throw (IO.userError fault.text)

/-- Carry the changes of the storage over to the file system. -/
def carryOver (before after : Storage) : IO Unit := do
  for directory in after.newDirectories before do
    IO.FS.createDir (Storage.pathOf directory)
  for file in after.changesSince before do
    store file

/-- Put out what a session puts out.  The result is the exit status. -/
def report (outcome : Outcome) : IO UInt32 := do
  IO.print outcome.output
  IO.eprint outcome.errors
  match outcome.ending with
  | .exited status => return status.toUInt32
  | .misused message =>
      IO.eprint (Session.usageText ++ Session.misuseText message ++ "\n")
      return 2
  | .stopped fault =>
      IO.eprintln ("ttmap: " ++ fault.text)
      return 1

/-- Run a session on the part of the file system that the options name. -/
def runWith (arguments : List String) (options : Options) : IO UInt32 := do
  let before ← (pathsOf options).foldlM lookUp Storage.empty
  let some input ← (if options.file.any (· ≠ "") then pure (some "") else readInput)
    | IO.eprintln ("ttmap: " ++ Fault.text .undecodable)
      return 1
  let (outcome, after) := Session.run arguments input before
  match ← (carryOver before after).toBaseIO with
  | .ok _ => report outcome
  | .error failure =>
      IO.print outcome.output
      IO.eprintln ("ERROR: could not write output: " ++ toString failure)
      return 2

/-- Run the program: options that are not understood are reported without a
look at the file system. -/
def run (arguments : List String) : IO UInt32 := do
  match Options.parse arguments with
  | .ok options => runWith arguments options
  | .error _ => report (Session.run arguments "" Storage.empty).1

end Console
end BattleMap

/-- Compile a map as the arguments ask for. -/
def main (arguments : List String) : IO UInt32 :=
  BattleMap.Console.run arguments
