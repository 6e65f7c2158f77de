import BattleMap.Geometry.Lattice
import BattleMap.Mask.Regions

namespace BattleMap

open Regions (Cell)

/-!
# Edges and the cells beside them

A unit edge of the lattice has one cell on its right and one on its left, and
the two determine it.  All that the tracer knows about a turn can be said with
these cells: an edge that turns right keeps its right cell, an edge that turns
left keeps its left cell, and the other cell of the new edge is one of the two
cells that lay ahead.
-/

namespace Edge

/-- The cell on the right of an edge, seen along its direction. -/
def rightCell (edge : Edge) : Cell :=
  match edge.direction with
  | .east => (edge.start.x, edge.start.y)
  | .south => (edge.start.x - 1, edge.start.y)
  | .west => (edge.start.x - 1, edge.start.y - 1)
  | .north => (edge.start.x, edge.start.y - 1)

/-- The cell on the left of an edge. -/
def leftCell (edge : Edge) : Cell :=
  match edge.direction with
  | .east => (edge.start.x, edge.start.y - 1)
  | .south => (edge.start.x, edge.start.y)
  | .west => (edge.start.x - 1, edge.start.y)
  | .north => (edge.start.x - 1, edge.start.y - 1)

/-- The edge that starts where another one ends. -/
def onward (edge : Edge) (direction : Direction) : Edge :=
  ⟨edge.finish, direction⟩

@[simp] theorem onward_start (edge : Edge) (direction : Direction) :
    (edge.onward direction).start = edge.finish := rfl

@[simp] theorem onward_direction (edge : Edge) (direction : Direction) :
    (edge.onward direction).direction = direction := rfl

theorem rightCell_reverse (edge : Edge) : edge.reverse.rightCell = edge.leftCell := by
  rcases edge with ⟨start, direction⟩
  cases direction <;>
    simp [rightCell, leftCell, reverse, finish, Direction.opposite, Direction.step]

theorem leftCell_reverse (edge : Edge) : edge.reverse.leftCell = edge.rightCell := by
  rcases edge with ⟨start, direction⟩
  cases direction <;>
    simp [rightCell, leftCell, reverse, finish, Direction.opposite, Direction.step]

/-- A turn to the right goes around the same right cell. -/
theorem rightCell_onward_right (edge : Edge) :
    (edge.onward edge.direction.right).rightCell = edge.rightCell := by
  rcases edge with ⟨start, direction⟩
  cases direction <;> simp [rightCell, onward, finish, Direction.right, Direction.step]

/-- A turn to the left goes around the same left cell. -/
theorem leftCell_onward_left (edge : Edge) :
    (edge.onward edge.direction.left).leftCell = edge.leftCell := by
  rcases edge with ⟨start, direction⟩
  cases direction <;> simp [leftCell, onward, finish, Direction.left, Direction.step]

/-- A turn to the right has on its left the cell that lay ahead on the right. -/
theorem leftCell_onward_right (edge : Edge) :
    (edge.onward edge.direction.right).leftCell = (edge.onward edge.direction).rightCell := by
  rcases edge with ⟨start, direction⟩
  cases direction <;> simp [rightCell, leftCell, onward, finish, Direction.right, Direction.step]

/-- A turn to the left has on its right the cell that lay ahead on the left. -/
theorem rightCell_onward_left (edge : Edge) :
    (edge.onward edge.direction.left).rightCell = (edge.onward edge.direction).leftCell := by
  rcases edge with ⟨start, direction⟩
  cases direction <;> simp [rightCell, leftCell, onward, finish, Direction.left, Direction.step]

theorem onward_injective {a b : Edge} (sameDirection : a.direction = b.direction)
    (sameFinish : a.finish = b.finish) : a = b := by
  rcases a with ⟨⟨ax, ay⟩, aDirection⟩
  rcases b with ⟨⟨bx, bY⟩, bDirection⟩
  cases sameDirection
  cases aDirection <;>
    simp only [finish, Direction.step, Point.mk.injEq] at sameFinish <;>
    simp only [Edge.mk.injEq, Point.mk.injEq, and_true] <;> omega

/-! ## Adjacent cells -/

theorem rightCell_onward_mem_sideNeighbours (edge : Edge) :
    (edge.onward edge.direction).rightCell ∈ Regions.sideNeighbours edge.rightCell := by
  rcases edge with ⟨⟨x, y⟩, direction⟩
  cases direction <;>
    simp [Regions.sideNeighbours, rightCell, onward, finish, Direction.step]

theorem leftCell_onward_mem_sideNeighbours (edge : Edge) :
    (edge.onward edge.direction).leftCell ∈ Regions.sideNeighbours edge.leftCell := by
  rcases edge with ⟨⟨x, y⟩, direction⟩
  cases direction <;>
    simp [Regions.sideNeighbours, leftCell, onward, finish, Direction.step]

theorem leftCell_mem_sideNeighbours (edge : Edge) :
    edge.leftCell ∈ Regions.sideNeighbours edge.rightCell := by
  rcases edge with ⟨⟨x, y⟩, direction⟩
  cases direction <;> simp [Regions.sideNeighbours, leftCell, rightCell]

/-- The cell ahead on the right touches the left cell at a corner. -/
theorem rightCell_onward_mem_cornerNeighbours (edge : Edge) :
    (edge.onward edge.direction).rightCell ∈ Regions.cornerNeighbours edge.leftCell := by
  rcases edge with ⟨⟨x, y⟩, direction⟩
  cases direction <;>
    simp [Regions.cornerNeighbours, leftCell, rightCell, onward, finish, Direction.step]

/-- Two cells that share a side have an edge between them. -/
theorem exists_between_sideNeighbours {a b : Cell} (adjacent : b ∈ Regions.sideNeighbours a) :
    Exists fun edge : Edge => edge.rightCell = a ∧ edge.leftCell = b := by
  rcases a with ⟨x, y⟩
  simp only [Regions.sideNeighbours, List.mem_cons, List.not_mem_nil, or_false] at adjacent
  rcases adjacent with rfl | rfl | rfl | rfl
  · exact ⟨⟨⟨x + 1, y⟩, .south⟩, by simp [rightCell], by simp [leftCell]⟩
  · exact ⟨⟨⟨x + 1, y + 1⟩, .west⟩, by simp [rightCell], by simp [leftCell]⟩
  · exact ⟨⟨⟨x, y + 1⟩, .north⟩, by simp [rightCell], by simp [leftCell]⟩
  · exact ⟨⟨⟨x, y⟩, .east⟩, by simp [rightCell], by simp [leftCell]⟩

/-- Two cells that share only a corner lie on the left of an edge and ahead of it
on the right. -/
theorem exists_between_cornerNeighbours {a b : Cell} (adjacent : b ∈ Regions.cornerNeighbours a) :
    Exists fun edge : Edge => edge.leftCell = a ∧ (edge.onward edge.direction).rightCell = b := by
  rcases a with ⟨x, y⟩
  simp only [Regions.cornerNeighbours, List.mem_cons, List.not_mem_nil, or_false] at adjacent
  rcases adjacent with rfl | rfl | rfl | rfl
  · exact ⟨⟨⟨x, y + 1⟩, .east⟩, by simp [leftCell], by simp [rightCell, onward, finish, Direction.step]⟩
  · exact ⟨⟨⟨x, y⟩, .south⟩, by simp [leftCell], by simp [rightCell, onward, finish, Direction.step]⟩
  · exact ⟨⟨⟨x + 1, y⟩, .west⟩, by simp [leftCell], by simp [rightCell, onward, finish, Direction.step]⟩
  · exact ⟨⟨⟨x + 1, y + 1⟩, .north⟩, by simp [leftCell],
      by simp [rightCell, onward, finish, Direction.step]⟩

end Edge
end BattleMap
