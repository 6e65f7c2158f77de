import BattleMap.Geometry.Axis
import BattleMap.Mask
import BattleMap.Memory
import BattleMap.Statement

namespace BattleMap

/-!
# Coverage

Stamps are applied to the floor plan one after the other.  A filling stamp fills
the cells it covers whatever they were; a turning stamp turns each of them over.
A stamp without cells, or one that reaches past the far edges of the grid, is
rejected and changes nothing.  Its origin is not restricted: below zero it
counts from the far end, as on every axis.
-/

namespace Stamp

def columns (stamp : Stamp) (width : Nat) : Axis.Span :=
  Axis.span width stamp.area.x (stamp.area.x + stamp.area.width)

def rows (stamp : Stamp) (height : Nat) : Axis.Span :=
  Axis.span height stamp.area.y (stamp.area.y + stamp.area.height)

/-- Whether a stamp covers a cell of a grid. -/
def coversCell (stamp : Stamp) (width height : Nat) (x y : Nat) : Bool :=
  (stamp.columns width).contains x && (stamp.rows height).contains y

def changed (stamp : Stamp) (wasFilled : Bool) : Bool :=
  match stamp.mode with
  | .fill => true
  | .turn => !wasFilled

variable {α : Type} [Coordinate α]

/-- Reject a stamp without cells or past the far edges of the grid. -/
def check (width height : Nat) (stamp : Placed (Stamp α)) : Except Fault Unit := do
  let area := stamp.item.area
  let zero := Coordinate.ofInt 0
  let reject := stamp.reject stamp.item.text
  -- A floor plan that is held in memory has a short width and a short height.
  let past := "extends past the " ++ Decimal.ofNat width ++ "x" ++ Decimal.ofNat height ++ " grid"
  if Coordinate.atMost area.width zero || Coordinate.atMost area.height zero then
    reject "width and height must be positive"
  if Coordinate.below (Coordinate.ofInt width) (← Coordinate.add area.x area.width) then
    reject past
  if Coordinate.below (Coordinate.ofInt height) (← Coordinate.add area.y area.height) then
    reject past

/-- The stamp with whole coordinates, which it needs to be applied. -/
def inWholes (stamp : Stamp α) : Except Fault Stamp := do
  return ⟨stamp.mode, ⟨← Coordinate.needInt stamp.area.x, ← Coordinate.needInt stamp.area.y,
    ← Coordinate.needInt stamp.area.width, ← Coordinate.needInt stamp.area.height⟩⟩

@[simp] theorem inWholes_int (stamp : Stamp) : stamp.inWholes = .ok stamp := rfl

end Stamp

namespace Mask

/-- The mask after a stamp, whether or not the stamp is acceptable. -/
def stamped (mask : Mask) (stamp : Stamp) : Mask :=
  mask.updateArea (stamp.columns mask.width) (stamp.rows mask.height) stamp.changed

/-- A stamp changes the cells that it covers and no others. -/
theorem filled_stamped (mask : Mask) (stamp : Stamp) {x y : Nat} (column : x < mask.width)
    (row : y < mask.height) :
    (mask.stamped stamp).filled x y =
      if stamp.coversCell mask.width mask.height x y then stamp.changed (mask.filled x y)
      else mask.filled x y :=
  filled_updateArea mask _ _ _ column row

variable {α : Type} [Coordinate α]

/-- The mask after an acceptable stamp. -/
def applyStamp (mask : Mask) (stamp : Placed (Stamp α)) : Except Fault Mask := do
  Stamp.check mask.width mask.height stamp
  return mask.stamped (← stamp.item.inWholes)

/-- The empty floor plan of a grid, which must have cells, but not more than can
be held with a byte for each of them. -/
def forGrid (size : GridSize α) : Except Fault Mask := do
  if size.isPositive then
    let (width, height) ← Memory.checkGrid 1 size.width size.height
    return blank width height
  else size.rejectEmpty none none

/-- The floor plan after all stamps; the first unacceptable one is reported. -/
def replay (size : GridSize α) (stamps : List (Placed (Stamp α))) : Except Fault Mask := do
  stamps.foldlM applyStamp (← forGrid size)

end Mask
end BattleMap
