import BattleMap.Furnishing
import BattleMap.Scene

namespace BattleMap

/-!
# Projection

Every coordinate of a map is multiplied by the size of a cell in pixels.  The
origin stays in the top left corner and `y` still grows downward.  A circle
within a cell touches all its sides, and a square takes a fraction of its cell
and is centred in it.
-/

namespace Scene

/-- The size of a cell if none is asked for. -/
def defaultCellSize : Number := .whole 10

/-- The part of a cell's side that a square takes up. -/
def defaultSquareFraction : Number := .fraction 0.6

/-- The size of a cell must be given and must not be zero or below. -/
def checkCellSize : Option Number -> Except Fault Number
  | none => .error (.outOfRange "cell size None" "must be a positive number of pixels" none none)
  | some size =>
      if size.atMostZero then do
        throw (.outOfRange ("cell size " ++ (← size.exactText)) "must be a positive number of pixels"
          none none)
      else .ok size

variable {α : Type} [Coordinate α]

/-- A lattice point in pixels. -/
def projectPoint (cellSize : Number) (x y : α) : Except Fault (Point Number) :=
  Point.scaled cellSize ⟨Coordinate.toNumber x, Coordinate.toNumber y⟩

def projectLine (cellSize : Number) (line : SideLine α) : Except Fault Segment := do
  let (start, finish) ← line.ends
  return ⟨← projectPoint cellSize start.1 start.2, ← projectPoint cellSize finish.1 finish.2⟩

/-- The middle of a cell, counted from its lattice coordinate. -/
def middle (x : α) : Except Fault Number :=
  (Coordinate.toNumber x).add (.fraction 0.5)

/-- A circle in pixels. -/
def projectCircle (cellSize : Number) : Circle α -> Except Fault Disc
  | .within x y => do
      let centre ← Point.scaled cellSize ⟨← middle x, ← middle y⟩
      return ⟨centre, ← (Number.fraction 0.5).mul cellSize⟩
  | .around x y radius => do
      return ⟨← projectPoint cellSize x y, ← radius.mul cellSize⟩

def projectSquare (cellSize fraction : Number) (square : CellSquare α) : Except Fault Tile := do
  let side ← fraction.mul cellSize
  let inset ← (← cellSize.sub side).half
  let corner ← projectPoint cellSize square.x square.y
  return ⟨⟨← corner.x.add inset, ← corner.y.add inset⟩, side⟩

/-- The scene of a grid with the given loops and furnishings. -/
def project (grid : GridSize α) (loops : List (Loop Number)) (lines : List (SideLine α))
    (circles : List (Circle α)) (squares : List (CellSquare α)) (cellSize : Option Number)
    (squareFraction : Number) : Except Fault (Scene α) := do
  let size ← checkCellSize cellSize
  return {
    cellSize := size
    grid := grid
    loops := ← loops.mapM (Loop.scaled size)
    lines := ← lines.mapM (projectLine size)
    circles := ← circles.mapM (projectCircle size)
    squares := ← squares.mapM (projectSquare size squareFraction) }

end Scene
end BattleMap
