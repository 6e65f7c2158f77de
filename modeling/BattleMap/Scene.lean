import BattleMap.Geometry.Loop
import BattleMap.Statement

namespace BattleMap

/-!
# Scenes

A scene is a map in pixels, ready to be drawn: the outline of the floor plan as
loops, and the furnishings as segments, discs and tiles.  It is all that the
drawings know of the map.
-/

structure Segment where
  start : Point Number
  finish : Point Number
deriving DecidableEq, Repr

/-- A circle by its centre and radius. -/
structure Disc where
  centre : Point Number
  radius : Number
deriving DecidableEq, Repr

/-- A square by its top left corner and the length of its side. -/
structure Tile where
  origin : Point Number
  side : Number
deriving DecidableEq, Repr

/-- A map in pixels. -/
structure Scene (α : Type := Int) where
  cellSize : Number
  grid : GridSize α
  loops : List (Loop Number)
  lines : List Segment
  circles : List Disc
  squares : List Tile
deriving DecidableEq, Repr

namespace Scene

variable {α : Type} [Coordinate α]

def width (scene : Scene α) : Except Fault Number :=
  (Coordinate.toNumber scene.grid.width).mul scene.cellSize

def height (scene : Scene α) : Except Fault Number :=
  (Coordinate.toNumber scene.grid.height).mul scene.cellSize

end Scene
end BattleMap
