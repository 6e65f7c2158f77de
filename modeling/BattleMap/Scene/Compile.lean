import BattleMap.Document.Reading
import BattleMap.Outline
import BattleMap.Scene.Projection
import BattleMap.Survey

namespace BattleMap

/-!
# Compiling a map

From a text to a scene: read the document, carry out its statements, trace the
outline of the floor plan, and project everything to pixels.  Each step can
fail, and the first that does decides the answer.
-/

namespace Survey

def scene [Coordinate α] (survey : Survey α) (grid : GridSize α) (loops : List (Loop Int))
    (cellSize : Option Number) : Except Fault (Scene α) :=
  Scene.project grid (loops.map Loop.toNumbers) (survey.furnishings.lines.map (·.item))
    (survey.furnishings.circles.map (·.item)) (survey.furnishings.squares.map (·.item)) cellSize
    Scene.defaultSquareFraction

end Survey

namespace Document

def compile [Coordinate α] (document : Document α) (cellSize : Option Number) :
    Except Fault (Scene α) := do
  let survey ← document.survey
  survey.scene document.grid.item (← survey.floor.outline) cellSize

end Document

/-- The scene of a map. -/
def Scene.ofText (text : List Char) (cellSize : Option Number) : Except Fault Scene := do
  (← Document.read text).compile cellSize

end BattleMap
