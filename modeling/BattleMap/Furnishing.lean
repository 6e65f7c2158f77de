import BattleMap.Statement

namespace BattleMap

/-!
# Furnishings

Lines, circles and squares are not part of the floor plan.  They are checked
against the grid and kept in the order of the map, each kind for itself.  Lines
and circle centres lie on the lattice, which includes the far edges of the grid;
cell entities need a cell.  A radius may reach beyond the grid, but it must not
be zero or below.
-/

/-- The lines, circles and squares of a map, each kind in order. -/
structure Furnishings (α : Type := Int) where
  lines : List (Placed (SideLine α))
  circles : List (Placed (Circle α))
  squares : List (Placed (CellSquare α))
deriving DecidableEq, Repr

namespace GridSize

variable {α : Type} [Coordinate α]

/-- Whether a lattice point belongs to the grid, its far edges included. -/
def hasPoint (size : GridSize α) (point : α × α) : Bool :=
  Coordinate.atMost (Coordinate.ofInt 0) point.1 && Coordinate.atMost point.1 size.width &&
    Coordinate.atMost (Coordinate.ofInt 0) point.2 && Coordinate.atMost point.2 size.height

def hasCell (size : GridSize α) (x y : α) : Bool :=
  Coordinate.atMost (Coordinate.ofInt 0) x && Coordinate.below x size.width &&
    Coordinate.atMost (Coordinate.ofInt 0) y && Coordinate.below y size.height

def cellOutside (size : GridSize α) : Except Fault String := do
  return "cell lies outside the " ++ (← Coordinate.text size.width) ++ "x" ++
    (← Coordinate.text size.height) ++ " grid"

/-- Reject a line of no length or one that leaves the grid. -/
def checkLine (size : GridSize α) (line : Placed (SideLine α)) : Except Fault Unit :=
  let reject := line.reject line.item.text
  if Coordinate.atMost line.item.length (Coordinate.ofInt 0) then reject "length must be positive"
  else do
    let (start, finish) ← line.item.ends
    if !size.hasPoint start then reject "start lies outside the grid"
    else if !size.hasPoint finish then reject "runs past the edge of the grid"
    else return

/-- Reject a circle whose cell or centre is off the grid, or whose radius is not
above zero. -/
def checkCircle (size : GridSize α) (circle : Placed (Circle α)) : Except Fault Unit :=
  let reject := circle.reject circle.item.text
  match circle.item with
  | .within x y => if size.hasCell x y then .ok () else do reject (← size.cellOutside)
  | .around x y radius =>
      if !size.hasPoint (x, y) then reject "centre lies outside the grid"
      else if radius.atMostZero then reject "radius must be positive"
      else .ok ()

/-- Reject a square whose cell is off the grid. -/
def checkSquare (size : GridSize α) (square : Placed (CellSquare α)) : Except Fault Unit :=
  if size.hasCell square.item.x square.item.y then .ok ()
  else do square.reject square.item.text (← size.cellOutside)

/-- Reject a statement that does not fit the grid.  Stamps are passed over. -/
def checkFurnishing (size : GridSize α) (placed : Placed (Statement α)) : Except Fault Unit :=
  match placed.item with
  | .stamp _ => .ok ()
  | .line item => size.checkLine ⟨item, placed.line, placed.column⟩
  | .circle item => size.checkCircle ⟨item, placed.line, placed.column⟩
  | .square item => size.checkSquare ⟨item, placed.line, placed.column⟩

end GridSize

namespace Placed

def line? (placed : Placed (Statement α)) : Option (Placed (SideLine α)) :=
  match placed.item with
  | .line item => some ⟨item, placed.line, placed.column⟩
  | _ => none

def circle? (placed : Placed (Statement α)) : Option (Placed (Circle α)) :=
  match placed.item with
  | .circle item => some ⟨item, placed.line, placed.column⟩
  | _ => none

def square? (placed : Placed (Statement α)) : Option (Placed (CellSquare α)) :=
  match placed.item with
  | .square item => some ⟨item, placed.line, placed.column⟩
  | _ => none

end Placed

namespace Furnishings

/-- The furnishings among the given statements. -/
def ofStatements (statements : List (Placed (Statement α))) : Furnishings α :=
  ⟨statements.filterMap Placed.line?, statements.filterMap Placed.circle?,
    statements.filterMap Placed.square?⟩

/-- The furnishings among the given statements, each of which is checked against
the grid; the first bad one is reported. -/
def collect [Coordinate α] (size : GridSize α) (statements : List (Placed (Statement α))) :
    Except Fault (Furnishings α) := do
  statements.forM size.checkFurnishing
  return ofStatements statements

end Furnishings
end BattleMap
