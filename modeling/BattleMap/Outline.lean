import BattleMap.Geometry.Loop
import BattleMap.Outline.Boundary
import BattleMap.Outline.Chain

namespace BattleMap

/-!
# Outlines

The outline of a mask is the list of loops around its filled cells.  The unit
edges of each chain are merged into straight sides, so that only corners are
kept, and the loop is turned so that its topmost corner comes first, and of
several topmost ones the leftmost.
-/

namespace Chain

/-- The vertices where a chain changes its direction.  The edge before the first
one is the last. -/
def corners (chain : Chain) : List Vertex :=
  let before := (chain.getLast?.map (·.direction)).toList ++ chain.map (·.direction)
  ((chain.zip before).filter fun pair => pair.2 ≠ pair.1.direction).map (·.1.start)

/-- Whether a vertex comes first in reading order: higher up, or further left on
the same level. -/
def readsBefore (a b : Vertex) : Bool :=
  a.y < b.y || (a.y = b.y && a.x < b.x)

/-- The first vertex of a list in reading order. -/
def topmost? : List Vertex -> Option Vertex
  | [] => none
  | v :: rest => some (rest.foldl (fun best w => if readsBefore w best then w else best) v)

/-- A cyclic list turned so that its topmost vertex comes first. -/
def fromTopmost (vertices : List Vertex) : List Vertex :=
  match topmost? vertices with
  | none => []
  | some top => vertices.dropWhile (· ≠ top) ++ vertices.takeWhile (· ≠ top)

def toLoop (chain : Chain) : Loop Int :=
  ⟨fromTopmost chain.corners⟩

end Chain

/-- A vertex as its two coordinates in writing. -/
def vertexText (vertex : Vertex) : Except Fault String := do
  return "(" ++ (← (Number.whole vertex.x).exactText) ++ ", " ++
    (← (Number.whole vertex.y).exactText) ++ ")"

/-- The fault of a chain that ends at a vertex.  It names the vertex, if this can be written. -/
def Fault.ofOpenEnd (vertex : Vertex) : Fault :=
  match vertexText vertex with
  | .ok text => .openBoundary text
  | .error fault => fault

/-- Join directed edges into loops. -/
def Loop.ofEdges (edges : List Edge) : Except Fault (List (Loop Int)) :=
  match Chain.ofEdges edges with
  | .ok chains => .ok (chains.map Chain.toLoop)
  | .error vertex => .error (.ofOpenEnd vertex)

/-- The loops around the filled cells of a mask. -/
def Mask.outline (mask : Mask) : Except Fault (List (Loop Int)) :=
  Loop.ofEdges mask.boundary

end BattleMap
