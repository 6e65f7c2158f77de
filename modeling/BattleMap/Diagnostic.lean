import BattleMap.Decimal.Digits

namespace BattleMap

/-!
# Diagnostics

A map that cannot be compiled is answered by one diagnostic: what is wrong, and
the line and column of the statement to blame where there is one.  The causes
are kept apart as data; their wording is in `Diagnostic.message` and nowhere
else.
-/

/-- What is wrong with a map. -/
inductive Cause where
  /-- Any other complaint, in its own words. -/
  | complaint (message : String)
  /-- Something else stands where the grammar expects a certain word or number. -/
  | unexpected (found expected : String)
  /-- A statement stands before the grid declaration, or there is none at all. -/
  | missingGrid
  /-- The grid is declared a second time. -/
  | duplicateGrid
  /-- A coordinate or a size of the named statement is out of range. -/
  | outOfRange (subject reason : String)
deriving DecidableEq, Repr

/-- A cause together with the position to blame. -/
structure Diagnostic where
  cause : Cause
  line : Option Int
  column : Option Int
deriving DecidableEq, Repr

namespace Diagnostic

/-- The wording of a diagnostic, without its position.  A missing grid is put
differently if a statement can be pointed at. -/
def message (diagnostic : Diagnostic) : String :=
  match diagnostic.cause with
  | .complaint text => text
  | .unexpected found expected => "expected " ++ expected ++ ", got " ++ found
  | .missingGrid =>
      if diagnostic.line.getD 0 = 0 then "no grid dimensions"
      else "no grid dimensions declared before this statement"
  | .duplicateGrid => "grid dimensions declared more than once"
  | .outOfRange subject reason => subject ++ ": " ++ reason

/-- The whole report.  A position is shown if the line is known; an unknown
column counts as the first one. -/
def report (diagnostic : Diagnostic) : String :=
  match diagnostic.line with
  | none => "ERROR: " ++ diagnostic.message
  | some line =>
      -- A position counts the lines of a text or the characters of a line, so it is short.
      let column := diagnostic.column.getD 0
      "[" ++ Decimal.ofInt line ++ "," ++ Decimal.ofInt (if column = 0 then 1 else column) ++
        "] ERROR: " ++ diagnostic.message

end Diagnostic
end BattleMap
