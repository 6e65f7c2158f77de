import BattleMap.Statement

namespace BattleMap

/-!
# Documents

A document is a map after reading: its grid, and its statements in the order in
which they were written.  Filling and turning cells do not commute, so the order
is part of the meaning.
-/

/-- The grid declaration and every later statement, in order. -/
structure Document (α : Type := Int) where
  grid : Placed (GridSize α)
  statements : List (Placed (Statement α))
deriving DecidableEq, Repr

namespace Document

def stamps (document : Document α) : List (Placed (Stamp α)) :=
  document.statements.filterMap fun placed =>
    match placed.item with
    | .stamp stamp => some ⟨stamp, placed.line, placed.column⟩
    | _ => none

end Document
end BattleMap
