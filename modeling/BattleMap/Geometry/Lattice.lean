namespace BattleMap

/-!
# The lattice

Cells meet at lattice points, and their sides are unit edges between lattice
points.  An edge is given by where it starts and which way it runs; `y` grows
downward, so a quarter turn to the right leads from east to south.
-/

/-- A point of the plane. -/
structure Point (α : Type) where
  x : α
  y : α
deriving DecidableEq, Repr

abbrev Vertex := Point Int

/-- The four ways a unit edge can run. -/
inductive Direction where
  | east
  | south
  | west
  | north
deriving DecidableEq, Repr

namespace Direction

def right : Direction -> Direction
  | .east => .south
  | .south => .west
  | .west => .north
  | .north => .east

def left : Direction -> Direction
  | .east => .north
  | .south => .east
  | .west => .south
  | .north => .west

def opposite : Direction -> Direction
  | .east => .west
  | .south => .north
  | .west => .east
  | .north => .south

def step : Direction -> Vertex -> Vertex
  | .east, v => ⟨v.x + 1, v.y⟩
  | .south, v => ⟨v.x, v.y + 1⟩
  | .west, v => ⟨v.x - 1, v.y⟩
  | .north, v => ⟨v.x, v.y - 1⟩

end Direction

/-- A directed unit edge. -/
structure Edge where
  start : Vertex
  direction : Direction
deriving DecidableEq, Repr

namespace Edge

def finish (edge : Edge) : Vertex :=
  edge.direction.step edge.start

/-- The same side of a cell, run through the other way. -/
def reverse (edge : Edge) : Edge :=
  ⟨edge.finish, edge.direction.opposite⟩

end Edge
end BattleMap
