import BattleMap.Decimal.Power
import BattleMap.Statement.Coordinate

namespace BattleMap
namespace Memory

/-!
# Limits of memory

A map may ask for more than any memory can hold.  Such a request is refused
before anything is laid out, with one fault for sizes that cannot even be
addressed and another for those that merely cannot be held.
-/

/-- The most bytes that can be addressed. -/
def addressable : Nat := Decimal.twoTo 63 - 1

/-- The most bytes that can be held. -/
def available : Nat := Decimal.twoTo 36

/-- Refuse a number of bytes that cannot be addressed. -/
def checkAddress (bytes : Nat) : Except Fault Unit :=
  if addressable < bytes then .error .unaddressable else .ok ()

/-- The length of a side of a grid, which must be a whole number that can be
addressed. -/
def sideLength [Coordinate α] (length : α) : Except Fault Int := do
  let length ← Coordinate.needInt length
  checkAddress length.natAbs
  return length

/-- The width and the height of a grid that can be laid out with the given number
of bytes for each cell.  A side without length does not excuse the other one. -/
def checkGrid [Coordinate α] (bytes : Nat) (width height : α) : Except Fault (Nat × Nat) := do
  let height ← sideLength height
  let width ← sideLength width
  if width < 0 || height < 0 then throw .unaddressable
  checkAddress (bytes * (max 1 width.toNat * max 1 height.toNat))
  if available < bytes * (width.toNat * height.toNat) then throw .outOfMemory
  return (width.toNat, height.toNat)

end Memory
end BattleMap
