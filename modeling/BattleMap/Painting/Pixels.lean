import BattleMap.Painting

namespace BattleMap

/-!
# Pixels of a painting

A stroke either leaves a pixel as it is or gives it one colour, and later
strokes cover earlier ones.  Boxes and lines include their last pixel.  A
polygon fills the pixels whose centres lie inside it, which is decided by the
parity of the upright sides to their right, and then draws its sides in the
colour of its border.  Of an ellipse the outermost pixels inside it are drawn.
Coordinates are cut to whole pixels first.

A row of pixels is found from the strokes that reach it alone; by
`pixelColour_filter_reachesRow` the others make no difference.
-/

structure PixelBox where
  left : Int
  top : Int
  right : Int
  bottom : Int
deriving DecidableEq, Repr

namespace PixelBox

/-- Whether a pixel belongs to the box, its last row and column included. -/
def contains (box : PixelBox) (x y : Int) : Bool :=
  box.left ≤ x && x ≤ box.right && box.top ≤ y && y ≤ box.bottom

def onBorder (box : PixelBox) (x y : Int) : Bool :=
  box.contains x y && (x = box.left || x = box.right || y = box.top || y = box.bottom)

/-- Whether the centre of a pixel belongs to the ellipse in the box.  Distances
from the centre of the box are doubled, which keeps them whole. -/
def inEllipse (box : PixelBox) (x y : Int) : Bool :=
  let width := box.right - box.left + 1
  let height := box.bottom - box.top + 1
  let across := (2 * x - box.left - box.right) * height
  let down := (2 * y - box.top - box.bottom) * width
  box.contains x y && across * across + down * down ≤ width * width * (height * height)

/-- Whether a pixel belongs to the ellipse in the box while one of its four
neighbours does not. -/
def onEllipse (box : PixelBox) (x y : Int) : Bool :=
  box.inEllipse x y &&
    !(box.inEllipse (x + 1) y && box.inEllipse (x - 1) y && box.inEllipse x (y + 1) &&
      box.inEllipse x (y - 1))

def reachesRow (box : PixelBox) (y : Int) : Bool :=
  box.top ≤ y && y ≤ box.bottom

def ofBox (box : Box) : Except Fault PixelBox := do
  return ⟨← box.left.truncate, ← box.top.truncate, ← box.right.truncate, ← box.bottom.truncate⟩

/-- The box between two pixels; an upright or level line is such a box. -/
def between (a b : Vertex) : PixelBox :=
  ⟨min a.x b.x, min a.y b.y, max a.x b.x, max a.y b.y⟩

end PixelBox

inductive PixelStroke where
  | frame (box : PixelBox) (border : Colour)
  | block (box : PixelBox) (inner : Colour)
  | polygon (loop : Loop Int) (inner border : Colour)
  | line (start finish : Vertex) (colour : Colour)
  | ellipse (box : PixelBox) (border : Colour)
deriving DecidableEq, Repr

namespace PixelStroke

def vertexOf (point : Point Number) : Except Fault Vertex := do
  return ⟨← point.x.truncate, ← point.y.truncate⟩

def ofStroke : Stroke -> Except Fault PixelStroke
  | .frame box border => do return .frame (← PixelBox.ofBox box) border
  | .block box inner => do return .block (← PixelBox.ofBox box) inner
  | .polygon points inner border => do
      return .polygon ⟨← points.mapM vertexOf⟩ inner border
  | .line start finish colour => do return .line (← vertexOf start) (← vertexOf finish) colour
  | .ellipse box border => do return .ellipse (← PixelBox.ofBox box) border

/-- Whether an upright side of a polygon lies to the right of the centre of a
pixel, in its row. -/
def isRightOf (side : Vertex × Vertex) (x y : Int) : Bool :=
  side.1.x = side.2.x && x < side.1.x && min side.1.y side.2.y ≤ y && y < max side.1.y side.2.y

/-- Whether the centre of a pixel lies inside a polygon. -/
def inside (loop : Loop Int) (x y : Int) : Bool :=
  (loop.sides.countP fun side => isRightOf side x y) % 2 = 1

/-- Whether a side of a polygon passes through a pixel. -/
def onSide (loop : Loop Int) (x y : Int) : Bool :=
  loop.sides.any fun side => (PixelBox.between side.1 side.2).contains x y

/-- The colour that a stroke gives to a pixel, if it touches it. -/
def colourAt? (stroke : PixelStroke) (x y : Int) : Option Colour :=
  match stroke with
  | .frame box border => if box.onBorder x y then some border else none
  | .block box inner => if box.contains x y then some inner else none
  | .polygon loop inner border =>
      if onSide loop x y then some border else if inside loop x y then some inner else none
  | .line start finish colour =>
      if (PixelBox.between start finish).contains x y then some colour else none
  | .ellipse box border => if box.onEllipse x y then some border else none

def reachesRow (stroke : PixelStroke) (y : Int) : Bool :=
  match stroke with
  | .frame box _ | .block box _ | .ellipse box _ => box.reachesRow y
  | .polygon loop _ _ => loop.sides.any fun side => (PixelBox.between side.1 side.2).reachesRow y
  | .line start finish _ => (PixelBox.between start finish).reachesRow y

end PixelStroke

namespace PixelBox

theorem reachesRow_of_contains {box : PixelBox} {x y : Int} (inBox : box.contains x y = true) :
    box.reachesRow y = true := by
  simp only [contains, reachesRow, Bool.and_eq_true] at inBox ⊢
  exact ⟨inBox.1.2, inBox.2⟩

end PixelBox

namespace PixelStroke

theorem reachesRow_of_isRightOf {side : Vertex × Vertex} {x y : Int}
    (right : isRightOf side x y = true) : (PixelBox.between side.1 side.2).reachesRow y = true := by
  simp only [isRightOf, Bool.and_eq_true, decide_eq_true_eq] at right
  exact Bool.and_eq_true_iff.mpr
    ⟨decide_eq_true right.1.2, decide_eq_true (Int.le_of_lt right.2)⟩

/-- A stroke that does not reach a row leaves its pixels as they are. -/
theorem colourAt?_eq_none {stroke : PixelStroke} {y : Int} (misses : stroke.reachesRow y = false)
    (x : Int) : stroke.colourAt? x y = none := by
  have outside : forall box : PixelBox, box.reachesRow y = false -> box.contains x y = false :=
    fun box away => Bool.eq_false_iff.mpr fun inBox => by
      rw [PixelBox.reachesRow_of_contains inBox] at away
      cases away
  cases stroke with
  | frame box border => simp [colourAt?, PixelBox.onBorder, outside box misses]
  | block box inner => simp [colourAt?, outside box misses]
  | line start finish colour => simp [colourAt?, outside _ misses]
  | ellipse box border =>
      simp [colourAt?, PixelBox.onEllipse, PixelBox.inEllipse, outside box misses]
  | polygon loop inner border =>
      have apart : forall side, side ∈ loop.sides ->
          (PixelBox.between side.1 side.2).reachesRow y = false := by
        intro side listed
        have none := List.any_eq_false.mp misses side listed
        exact Bool.eq_false_iff.mpr none
      have noSide : onSide loop x y = false :=
        List.any_eq_false.mpr fun side listed => by
          rw [outside _ (apart side listed)]
          exact Bool.false_ne_true
      have noneRight : (loop.sides.countP fun side => isRightOf side x y) = 0 :=
        List.countP_eq_zero.mpr fun side listed right => by
          have reached := reachesRow_of_isRightOf right
          rw [apart side listed] at reached
          cases reached
      simp [colourAt?, noSide, inside, noneRight]

end PixelStroke

def pixelColour (strokes : List PixelStroke) (x y : Int) : Colour :=
  strokes.foldl (fun colour stroke => (stroke.colourAt? x y).getD colour) .sheet

/-- For the pixels of a row only the strokes that reach it matter. -/
theorem pixelColour_filter_reachesRow (strokes : List PixelStroke) (x y : Int) :
    pixelColour (strokes.filter fun stroke => stroke.reachesRow y) x y = pixelColour strokes x y := by
  unfold pixelColour
  generalize Colour.sheet = colour
  induction strokes generalizing colour with
  | nil => rfl
  | cons stroke rest same =>
      cases reaches : stroke.reachesRow y with
      | true => simp [reaches, same]
      | false => simp [reaches, same, PixelStroke.colourAt?_eq_none reaches]

def Painting.pixels (painting : Painting) : Except Fault (List (List Colour)) := do
  painting.checkSheet
  let strokes ← painting.strokes.mapM PixelStroke.ofStroke
  return (List.range painting.height.toNat).map fun (y : Nat) =>
    let reaching := strokes.filter fun stroke => stroke.reachesRow y
    (List.range painting.width.toNat).map fun (x : Nat) => pixelColour reaching x y

end BattleMap
