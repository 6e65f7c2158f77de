import BattleMap.Statement
import BattleMap.Statement.Form

namespace BattleMap

/-!
# The grammar of statements

The forms of the grid declaration and of the statements that may follow it.
The parts of a statement that start with the same word share one form, so what
a diagnostic expects at a token is what any legal statement could have there.
-/

namespace Grammar

/-- The words that open a statement after the grid declaration. -/
inductive Opening where
  | rect
  | xor
  | line
  | entity

/-- The two shapes of an entity. -/
inductive Shape where
  | circle
  | square

/-- Where the centre of a circle lies. -/
inductive Centre where
  | cell
  | point

def sides : List (String × Side) :=
  [("top", .top), ("bottom", .bottom), ("left", .left), ("right", .right)]

/-- `at x,y width w height h`, after the word that names a rectangle. -/
def rectangle (mode : StampMode) : Form Statement :=
  .keyword "at" (.pair fun x y =>
    .keyword "width" (.whole fun width =>
      .keyword "height" (.whole fun height =>
        .done (.stamp ⟨mode, ⟨x, y, width, height⟩⟩))))

/-- `along side from x,y length n`. -/
def sideLine : Form Statement :=
  .keyword "along" (.word "side ('top', 'bottom', 'left' or 'right')" sides fun side =>
    .keyword "from" (.pair fun x y =>
      .keyword "length" (.whole fun length =>
        .done (.line ⟨side, x, y, length⟩))))

/-- `within x,y` or `at x,y radius r`. -/
def circle : Form Statement :=
  .word "position ('within' or 'at')" [("within", Centre.cell), ("at", Centre.point)] fun centre =>
    .pair fun x y =>
      match centre with
      | .cell => .done (.circle (.within x y))
      | .point =>
          .keyword "radius" (.fraction fun radius =>
            .done (.circle (.around x y (.fraction radius))))

/-- `within x,y`. -/
def square : Form Statement :=
  .keyword "within" (.pair fun x y => .done (.square ⟨x, y⟩))

def entity : Form Statement :=
  .word "shape ('circle' or 'square')" [("circle", Shape.circle), ("square", Shape.square)]
    fun shape =>
      match shape with
      | .circle => circle
      | .square => square

/-- Any statement but a grid declaration. -/
def statement : Form Statement :=
  .word "statement ('grid', 'rect', 'xor', 'line' or 'entity')"
    [("rect", Opening.rect), ("xor", Opening.xor), ("line", Opening.line),
      ("entity", Opening.entity)]
    fun opening =>
      match opening with
      | .rect => rectangle .fill
      | .xor => .keyword "rect" (rectangle .turn)
      | .line => sideLine
      | .entity => entity

/-- `grid w,h`. -/
def grid : Form GridSize :=
  .keyword "grid" (.pair fun width height => .done ⟨width, height⟩)

end Grammar
end BattleMap
