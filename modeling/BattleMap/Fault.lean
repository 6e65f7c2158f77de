import BattleMap.Diagnostic
import BattleMap.Text.Quoted

namespace BattleMap

/-!
# Faults

Whatever can stop the work on a map.  Only the first kind is the author's doing
and has a position; the others come from arithmetic that leaves its range, from
edges that close no loop, from maps that are too large, or from the storage.
-/

/-- Why a path could not be read, written or made. -/
inductive StorageCause where
  | missing
  | alreadyExists
  | notADirectory
  | isADirectory
  | nameTooLong
deriving DecidableEq, Repr

/-- A storage operation that failed, and the path it was about. -/
structure StorageFault where
  cause : StorageCause
  path : String
deriving DecidableEq, Repr

/-- Whatever can stop the work on a map. -/
inductive Fault where
  | diagnosed (diagnostic : Diagnostic)
  /-- A chain of edges ends at the named vertex, where it can neither go on nor close. -/
  | openBoundary (vertex : String)
  /-- A whole number beyond the range of binary64, or an infinity where a whole
  number is needed. -/
  | tooLarge
  /-- An undefined result where a whole number is needed. -/
  | undefinedNumber
  /-- A whole number with more digits than are read or written. -/
  | tooManyDigits
  /-- A fraction where only a whole number has a meaning. -/
  | notWhole
  /-- The size of a cell is asked for without a number. -/
  | blankCellSize
  /-- More bytes than can be addressed, or fewer than none. -/
  | unaddressable
  /-- More bytes than can be held. -/
  | outOfMemory
  /-- Bytes that are no text. -/
  | undecodable
  /-- A path with a character that no path can have. -/
  | unusablePath
  | storage (fault : StorageFault)
deriving DecidableEq, Repr

namespace StorageFault

/-- The number and the wording of a cause. -/
def wording : StorageCause -> String
  | .missing => "[Errno 2] No such file or directory"
  | .alreadyExists => "[Errno 17] File exists"
  | .notADirectory => "[Errno 20] Not a directory"
  | .isADirectory => "[Errno 21] Is a directory"
  | .nameTooLong => "[Errno 36] File name too long"

def message (fault : StorageFault) : String :=
  wording fault.cause ++ ": " ++ Text.quoted fault.path.toList

end StorageFault

namespace Fault

/-- A statement that is out of range, with its position. -/
def outOfRange (subject reason : String) (line column : Option Int) : Fault :=
  .diagnosed ⟨.outOfRange subject reason, line, column⟩

/-- The wording of a fault for someone who looks at the program and not at the map. -/
def text : Fault -> String
  | .diagnosed diagnostic => diagnostic.report
  | .openBoundary vertex => "boundary is not closed at vertex " ++ vertex
  | .tooLarge => "a number is too large"
  | .undefinedNumber => "a number is undefined"
  | .tooManyDigits => "a whole number has too many digits"
  | .notWhole => "a whole number is needed"
  | .blankCellSize => "the size of a cell is not a number"
  | .unaddressable | .outOfMemory => "the map is too large to be held in memory"
  | .undecodable => "the map is not text in UTF-8"
  | .unusablePath => "a path contains a null character"
  | .storage fault => fault.message

end Fault
end BattleMap
