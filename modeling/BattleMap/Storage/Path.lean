namespace BattleMap

/-!
# Paths

A path is a text whose components are separated by slashes.  Empty components
and single dots mean nothing; two dots lead to the enclosing directory, but only
by way of the directory before them, so they are kept until a path is followed.
-/

namespace Path

/-- The components of a path, as they are spelled. -/
def components (path : String) : List String :=
  (path.toList.splitOn '/').map String.ofList

def isAbsolute (path : String) : Bool :=
  path.toList.head? = some '/'

/-- Whether a path asks for a directory by its last character. -/
def endsWithSlash (path : String) : Bool :=
  path.toList.getLast? = some '/'

/-- A path with a character that no path can have. -/
def isUnusable (path : String) : Bool :=
  path.toList.contains '\x00'

/-- The longest name of a file or directory in bytes. -/
def nameLimit : Nat := 255

/-- The longest path in bytes. -/
def lengthLimit : Nat := 4095

/-- The components of a path that mean something. -/
def steps (path : String) : List String :=
  (components path).filter fun component => component ≠ "" && component ≠ "."

/-- The path with the given steps; without steps it is a single dot. -/
def ofSteps (absolute : Bool) (steps : List String) : String :=
  let joined := String.intercalate "/" steps
  if absolute then "/" ++ joined else if steps.isEmpty then "." else joined

/-- Everything before the last slash of a path, without further slashes at its
end; the root stays what it is. -/
def directoryOf (path : String) : String :=
  let upToSlash := path.toList.reverse.dropWhile (· ≠ '/')
  let head := upToSlash.dropWhile (· = '/')
  String.ofList (if head.isEmpty then upToSlash else head).reverse

end Path
end BattleMap
