import BattleMap.Statement.Coordinate

namespace BattleMap

/-!
# Statements of a map

After its grid declaration a map is a list of statements.  A rectangle is
stamped on the floor plan, either filling its cells or turning each of them
over; a line runs along the sides of cells; circles and squares mark single
cells or points.  Coordinates count cells from the top left corner, so `y` grows
downward.  They are whole numbers if the statement was read from a text; a
statement that is made otherwise may have other coordinates, lie outside the
grid, or be empty.

`Statement.text` is the form in which diagnostics name a statement, and at the
same time its spelling in a map.  A statement with a number that is too long to be
written has no text, so nothing can be said about it.
-/

/-- A value and the position of the statement it comes from. -/
structure Placed (α : Type) where
  item : α
  line : Option Int
  column : Option Int
deriving DecidableEq, Repr

/-- A rectangle of cells by its top left cell and its size. -/
structure Rectangle (α : Type := Int) where
  x : α
  y : α
  width : α
  height : α
deriving DecidableEq, Repr

/-- What a stamp does with the cells it covers. -/
inductive StampMode where
  /-- Every covered cell is filled afterwards. -/
  | fill
  /-- Every covered cell is turned over. -/
  | turn
deriving DecidableEq, Repr

/-- A rectangle that changes the floor plan. -/
structure Stamp (α : Type := Int) where
  mode : StampMode
  area : Rectangle α
deriving DecidableEq, Repr

/-- The side of a cell at which a line starts. -/
inductive Side where
  | top
  | bottom
  | left
  | right
deriving DecidableEq, Repr

/-- A line that starts at one side of a cell and runs right or down along the
lattice for `length` cells. -/
structure SideLine (α : Type := Int) where
  side : Side
  x : α
  y : α
  length : α
deriving DecidableEq, Repr

/-- A circle inscribed in a cell, or around a lattice point. -/
inductive Circle (α : Type := Int) where
  | within (x y : α)
  | around (x y : α) (radius : Number)
deriving DecidableEq, Repr

/-- A small square in the middle of a cell. -/
structure CellSquare (α : Type := Int) where
  x : α
  y : α
deriving DecidableEq, Repr

/-- One statement after the grid declaration. -/
inductive Statement (α : Type := Int) where
  | stamp (stamp : Stamp α)
  | line (line : SideLine α)
  | circle (circle : Circle α)
  | square (square : CellSquare α)
deriving DecidableEq, Repr

/-- The numbers of columns and rows of the grid. -/
structure GridSize (α : Type := Int) where
  width : α
  height : α
deriving DecidableEq, Repr

variable {α : Type} [Coordinate α]

def pairText (x y : α) : Except Fault String := do
  return (← Coordinate.text x) ++ "," ++ (← Coordinate.text y)

namespace Stamp

def text (stamp : Stamp α) : Except Fault String := do
  let keyword := match stamp.mode with
    | .fill => "rect at "
    | .turn => "xor rect at "
  return keyword ++ (← pairText stamp.area.x stamp.area.y) ++ " width " ++
    (← Coordinate.text stamp.area.width) ++ " height " ++ (← Coordinate.text stamp.area.height)

end Stamp

namespace Side

def word : Side -> String
  | .top => "top"
  | .bottom => "bottom"
  | .left => "left"
  | .right => "right"

end Side

namespace SideLine

/-- The points where a line starts and ends: it starts at the top left corner of
the side. -/
def ends (line : SideLine α) : Except Fault ((α × α) × (α × α)) :=
  match line.side with
  | .left => do return ((line.x, line.y), (line.x, ← Coordinate.add line.y line.length))
  | .right => do
      let x ← Coordinate.add line.x (Coordinate.ofInt 1)
      return ((x, line.y), (x, ← Coordinate.add line.y line.length))
  | .top => do return ((line.x, line.y), (← Coordinate.add line.x line.length, line.y))
  | .bottom => do
      let y ← Coordinate.add line.y (Coordinate.ofInt 1)
      return ((line.x, y), (← Coordinate.add line.x line.length, y))

def text (line : SideLine α) : Except Fault String := do
  return "line along " ++ line.side.word ++ " from " ++ (← pairText line.x line.y) ++ " length " ++
    (← Coordinate.text line.length)

end SideLine

namespace Circle

/-- The spelling of a circle.  A radius is shown with six digits, which fails for
a whole number beyond the range of binary64. -/
def text : Circle α -> Except Fault String
  | .within x y => do return "entity circle within " ++ (← pairText x y)
  | .around x y radius => do
      return "entity circle at " ++ (← pairText x y) ++ " radius " ++ (← radius.briefText)

end Circle

namespace CellSquare

def text (square : CellSquare α) : Except Fault String := do
  return "entity square within " ++ (← pairText square.x square.y)

end CellSquare

namespace Statement

def text : Statement α -> Except Fault String
  | .stamp item => item.text
  | .line item => item.text
  | .circle item => item.text
  | .square item => item.text

end Statement

namespace GridSize

/-- Both sizes of a grid must be positive; only a size of zero or below is not. -/
def isPositive (size : GridSize α) : Bool :=
  !Coordinate.atMost size.width (Coordinate.ofInt 0) &&
    !Coordinate.atMost size.height (Coordinate.ofInt 0)

theorem isPositive_iff {size : GridSize} :
    size.isPositive = true ↔ 0 < size.width ∧ 0 < size.height := by
  simp [isPositive]

def text (size : GridSize α) : Except Fault String := do
  return "grid " ++ (← pairText size.width size.height)

/-- Reject a grid without cells, with the position to blame. -/
def rejectEmpty (size : GridSize α) (line column : Option Int) : Except Fault β := do
  throw (.outOfRange (← size.text) "width and height must be positive" line column)

end GridSize

namespace Placed

/-- The fault of a statement, blamed on its own position. -/
def outOfRange (placed : Placed β) (subject reason : String) : Fault :=
  .outOfRange subject reason placed.line placed.column

/-- Reject a statement that has the given text. -/
def reject (placed : Placed β) (text : Except Fault String) (reason : String) : Except Fault γ := do
  throw (placed.outOfRange (← text) reason)

end Placed
end BattleMap
