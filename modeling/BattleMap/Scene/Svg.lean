import BattleMap.Scene

namespace BattleMap

/-!
# Vector drawings

A scene is drawn in a fixed order: the grid if it is wanted, cell by cell; all
loops as one path, whose non-zero rule leaves the holes free; then segments,
discs and tiles.  Every number has six significant digits.
-/

namespace Svg

/-- The colour of outlines, lines and squares. -/
def stroke : String := "black"

def gridStroke : String := "rgb(200, 200, 200)"

/-- Attributes of an element, each with its text. -/
def attributes (pairs : List (String × String)) : String :=
  String.join (pairs.map fun pair => " " ++ pair.1 ++ "=\"" ++ pair.2 ++ "\"")

def element (name : String) (pairs : List (String × String)) : String :=
  "<" ++ name ++ attributes pairs ++ "/>"

/-- Two coordinates with a blank between them. -/
def pointText (point : Point Number) : Except Fault String := do
  return (← point.x.briefText) ++ " " ++ (← point.y.briefText)

/-- The path of a loop: move to its first corner, draw lines to the others, and
close it.  A loop without corners has no path. -/
def pathText (points : List (Point Number)) : Except Fault String :=
  match points with
  | [] => .ok ""
  | first :: rest => do
      let others ← rest.mapM fun point => do return " L " ++ (← pointText point)
      return "M " ++ (← pointText first) ++ String.join others ++ " Z"

/-- Where the first cells of a row or a column begin. -/
def cellStarts (scene : Scene) (count : Int) : Except Fault (List String) :=
  (List.range count.toNat).mapM fun (i : Nat) => do
    (← (Number.whole i).mul scene.cellSize).briefText

def gridCells (scene : Scene) : Except Fault (List String) := do
  let size ← scene.cellSize.briefText
  let rows ← cellStarts scene scene.grid.height
  let columns ← cellStarts scene scene.grid.width
  return rows.flatMap fun y => columns.map fun x =>
    element "rect" [("x", x), ("y", y), ("width", size), ("height", size),
      ("fill", "none"), ("stroke", gridStroke)]

/-- All loops in one path; without loops there is none. -/
def outline (loops : List (Loop Number)) : Except Fault (List String) :=
  if loops.isEmpty then .ok []
  else do
    let paths ← loops.mapM fun loop => pathText loop.points
    return [element "path" [("d", String.intercalate " " paths), ("fill", "none"),
      ("fill-rule", "nonzero"), ("stroke", stroke), ("stroke-width", "1")]]

def segment (line : Segment) : Except Fault String := do
  let path := "M " ++ (← pointText line.start) ++ " L " ++ (← pointText line.finish)
  return element "path" [("d", path), ("stroke", stroke), ("stroke-width", "1")]

def disc (circle : Disc) : Except Fault String := do
  return element "circle" [("cx", ← circle.centre.x.briefText), ("cy", ← circle.centre.y.briefText),
    ("r", ← circle.radius.briefText), ("fill", "none"), ("stroke", stroke)]

def tile (square : Tile) : Except Fault String := do
  let side ← square.side.briefText
  return element "rect" [("x", ← square.origin.x.briefText), ("y", ← square.origin.y.briefText),
    ("width", side), ("height", side), ("fill", stroke)]

/-- The opening tag, with the size of the drawing. -/
def openingTag (scene : Scene) : Except Fault String := do
  let width ← (← scene.width).briefText
  let height ← (← scene.height).briefText
  return "<svg" ++ attributes [("version", "1.1"), ("xmlns", "http://www.w3.org/2000/svg"),
    ("width", width), ("height", height), ("viewBox", "0 0 " ++ width ++ " " ++ height)] ++ ">"

end Svg

/-- The vector drawing of a scene, with or without its grid. -/
def Scene.toSvg (scene : Scene) (withGrid : Bool) : Except Fault String := do
  let opening ← Svg.openingTag scene
  let cells ← if withGrid then Svg.gridCells scene else .ok []
  let outline ← Svg.outline scene.loops
  let lines ← scene.lines.mapM Svg.segment
  let circles ← scene.circles.mapM Svg.disc
  let squares ← scene.squares.mapM Svg.tile
  return String.intercalate "\n"
    (opening :: cells ++ outline ++ lines ++ circles ++ squares ++ ["</svg>"])

end BattleMap
