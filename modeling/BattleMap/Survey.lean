import BattleMap.Coverage
import BattleMap.Document
import BattleMap.Furnishing

namespace BattleMap

/-!
# Survey of a document

The statements of a document are carried out in one pass and in their order, so
the first bad statement is the one that is reported, whatever its kind.  The
outcome is the floor plan and the furnishings.
-/

/-- A document after its statements were carried out. -/
structure Survey (α : Type := Int) where
  floor : Mask
  furnishings : Furnishings α

/-- Carry out one statement: a stamp changes the floor plan, a furnishing is only
checked. -/
def Mask.carryOut [Coordinate α] (size : GridSize α) (floor : Mask)
    (placed : Placed (Statement α)) : Except Fault Mask :=
  match placed.item with
  | .stamp item => floor.applyStamp ⟨item, placed.line, placed.column⟩
  | _ => do
      size.checkFurnishing placed
      return floor

/-- Carry out all statements of a document. -/
def Document.survey [Coordinate α] (document : Document α) : Except Fault (Survey α) := do
  let size := document.grid.item
  let floor ← document.statements.foldlM (Mask.carryOut size) (← Mask.forGrid size)
  return ⟨floor, Furnishings.ofStatements document.statements⟩

end BattleMap
