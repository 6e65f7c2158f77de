import BattleMap.Memory
import BattleMap.Painting.Order
import BattleMap.Scene

namespace BattleMap

/-!
# Paintings

A painting is a list of strokes on a sheet of pixels, painted one over the
other.  The outline is painted loop by loop: a region in the fill colour, a hole
in the colour of the sheet.  A loop inside another one is smaller than it, so
painting the largest first leaves every cell in its right colour.
-/

inductive Colour where
  /-- The sheet, and holes. -/
  | sheet
  /-- Filled cells. -/
  | fill
  /-- The grid. -/
  | grid
  /-- Outlines, lines, circles and squares. -/
  | ink
deriving DecidableEq, Repr

/-- An upright rectangle by two opposite corners. -/
structure Box where
  left : Number
  top : Number
  right : Number
  bottom : Number
deriving DecidableEq, Repr

/-- One stroke of a painting. -/
inductive Stroke where
  /-- The border of a box. -/
  | frame (box : Box) (border : Colour)
  /-- A box with its inside. -/
  | block (box : Box) (inner : Colour)
  /-- A polygon with its inside and its border. -/
  | polygon (points : List (Point Number)) (inner border : Colour)
  /-- A straight line of one pixel. -/
  | line (start finish : Point Number) (colour : Colour)
  /-- The border of the ellipse in a box. -/
  | ellipse (box : Box) (border : Colour)
deriving DecidableEq, Repr

/-- A sheet of whole pixels and the strokes on it, in order. -/
structure Painting where
  width : Int
  height : Int
  strokes : List Stroke
deriving DecidableEq, Repr

namespace Painting

def gridFrame (cellSize : Number) (i j : Nat) : Except Fault Stroke := do
  let edge := fun (n : Nat) => (Number.whole n).mul cellSize
  return .frame ⟨← edge i, ← edge j, ← edge (i + 1), ← edge (j + 1)⟩ .grid

def gridFrames (scene : Scene) : Except Fault (List Stroke) := do
  let rows ← (List.range scene.grid.height.toNat).mapM fun j =>
    (List.range scene.grid.width.toNat).mapM fun i => gridFrame scene.cellSize i j
  return rows.flatten

/-- The loops with their areas, the largest first, and loops of equal size as they
were.  If an area is undefined, sizes alone do not decide the order. -/
def bySize (loops : List (Loop Number)) : Except Fault (List (Area × Loop Number)) := do
  let measured ← loops.mapM fun loop => do return (← loop.area, loop)
  return if measured.all fun loop => loop.1.isDefined then
    measured.mergeSort fun a b => !b.1.isLarger a.1
  else Order.arrange (fun a b => a.1.isLarger b.1) measured

def loopStroke (loop : Area × Loop Number) : Stroke :=
  .polygon loop.2.points (if loop.1.isNegative then .sheet else .fill) .ink

def lineStroke (line : Segment) : Stroke :=
  .line line.start line.finish .ink

def circleStroke (circle : Disc) : Except Fault Stroke := do
  let centre := circle.centre
  let r := circle.radius
  return .ellipse ⟨← centre.x.sub r, ← centre.y.sub r, ← centre.x.add r, ← centre.y.add r⟩ .ink

def squareStroke (square : Tile) : Except Fault Stroke := do
  let origin := square.origin
  return .block ⟨origin.x, origin.y, ← origin.x.add square.side, ← origin.y.add square.side⟩ .ink

/-- A size in pixels as a whole number, which is at least one. -/
def sheetSize (size : Number) : Except Fault Int := do
  return max 1 (← size.round)

/-- The largest width or height that a sheet can be asked to have. -/
def sideLimit : Int := Decimal.twoTo 31 - 1

/-- The largest width that a sheet can have.  A pixel takes four bytes, and a row
of them must be addressable in 31 bits with some room to spare. -/
def widthLimit : Int := Decimal.twoTo 29 - 2

/-- Refuse a sheet that cannot be laid out. -/
def checkSheet (painting : Painting) : Except Fault Unit :=
  if sideLimit < painting.width || sideLimit < painting.height then .error .tooLarge
  else if widthLimit < painting.width ||
      (Memory.available : Int) < 4 * painting.width * painting.height then .error .outOfMemory
  else .ok ()

end Painting

/-- The painting of a scene, with or without its grid. -/
def Scene.toPainting (scene : Scene) (withGrid : Bool) : Except Fault Painting := do
  let width ← Painting.sheetSize (← scene.width)
  let height ← Painting.sheetSize (← scene.height)
  let frames ← if withGrid then Painting.gridFrames scene else .ok []
  let loops ← Painting.bySize scene.loops
  let circles ← scene.circles.mapM Painting.circleStroke
  let squares ← scene.squares.mapM Painting.squareStroke
  return ⟨width, height, frames ++ loops.map Painting.loopStroke ++
    scene.lines.map Painting.lineStroke ++ circles ++ squares⟩

end BattleMap
