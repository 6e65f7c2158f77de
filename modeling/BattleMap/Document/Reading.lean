import BattleMap.Document
import BattleMap.Statement.Grammar

namespace BattleMap

/-!
# Reading a document

A map declares its grid once, before everything else.  Lines without tokens do
not count.  The first line that is wrong decides the answer: no later line is
looked at, so a diagnostic does not depend on what follows it.

On one line several things can be wrong at the same time.  A second grid
declaration is reported before its spelling is looked at, whereas a statement
before the grid has its spelling checked first.
-/

namespace Document

/-- One line of a map: its number and its characters. -/
abbrev Line := Nat × List Char

/-- The position of a statement: its line, and the column of its first token. -/
def placedAt (item : α) (head : Token) : Placed α :=
  ⟨item, some head.line, some head.column⟩

/-- The statements of the lines behind the grid declaration. -/
def readStatements : List Line -> Except Fault (List (Placed Statement))
  | [] => .ok []
  | line :: rest => do
      match ← Token.scan line.1 line.2 with
      | [] => readStatements rest
      | head :: others =>
          if head.isWord "grid" then
            throw (.diagnosed ⟨.duplicateGrid, some head.line, some head.column⟩)
          else
            let statement ← Grammar.statement.read (.atStart line.1 (head :: others))
            return placedAt statement head :: (← readStatements rest)

def readGrid (line : Nat) (head : Token) (others : List Token) :
    Except Fault (Placed GridSize) := do
  let size ← Grammar.grid.read (.atStart line (head :: others))
  if size.isPositive then return placedAt size head
  else size.rejectEmpty (some head.line) (some head.column)

/-- The document in the given lines. -/
def readLines : List Line -> Except Fault Document
  | [] => .error (.diagnosed ⟨.missingGrid, none, none⟩)
  | line :: rest => do
      match ← Token.scan line.1 line.2 with
      | [] => readLines rest
      | head :: others =>
          if head.isWord "grid" then
            let grid ← readGrid line.1 head others
            return ⟨grid, ← readStatements rest⟩
          else
            let _ ← Grammar.statement.read (.atStart line.1 (head :: others))
            throw (.diagnosed ⟨.missingGrid, some head.line, some head.column⟩)

def read (text : List Char) : Except Fault Document :=
  readLines (Text.numberedLines text)

end Document
end BattleMap
