import BattleMap.Json
import BattleMap.Scene

namespace BattleMap

/-!
# Scenes as records

A scene is saved as a record of all its numbers.  Of each loop it also says
whether the loop runs around a hole, which is found from its corners in pixels.
-/

namespace Scene

def pointRecord (point : Point Number) : Json :=
  .list [.number point.x, .number point.y]

/-- The corners of a loop and whether it is a hole. -/
def loopRecord (loop : Loop Number) : Except Fault Json := do
  return .record [("points", .list (loop.points.map pointRecord)), ("hole", .bool (← loop.isHole))]

def lineRecord (line : Segment) : Json :=
  .record [("start", pointRecord line.start), ("end", pointRecord line.finish)]

def circleRecord (circle : Disc) : Json :=
  .record [("center", pointRecord circle.centre), ("radius", .number circle.radius)]

def squareRecord (square : Tile) : Json :=
  .record [("origin", pointRecord square.origin), ("side", .number square.side)]

def toRecord [Coordinate α] (scene : Scene α) : Except Fault Json := do
  return .record [
    ("cell_px", .number scene.cellSize),
    ("grid", .record [("width", .number (Coordinate.toNumber scene.grid.width)),
      ("height", .number (Coordinate.toNumber scene.grid.height))]),
    ("size_px", .list [.number (← scene.width), .number (← scene.height)]),
    ("loops", .list (← scene.loops.mapM loopRecord)),
    ("lines", .list (scene.lines.map lineRecord)),
    ("circles", .list (scene.circles.map circleRecord)),
    ("squares", .list (scene.squares.map squareRecord))]

end Scene
end BattleMap
