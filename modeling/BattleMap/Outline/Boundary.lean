import BattleMap.Mask

namespace BattleMap

/-!
# Boundary edges

A side of a filled cell belongs to the boundary if the cell on its other side is
not filled.  Boundary edges run with the filled cell on their right, so around a
single cell they run east along its top, south, west, and north again.
-/

namespace Mask

/-- The boundary edges of one filled cell: top, right, bottom and left. -/
def cellBoundary (mask : Mask) (cell : Nat × Nat) : List Edge :=
  let x : Int := cell.1
  let y : Int := cell.2
  (if mask.covers x (y - 1) then [] else [⟨⟨x, y⟩, .east⟩]) ++
    (if mask.covers (x + 1) y then [] else [⟨⟨x + 1, y⟩, .south⟩]) ++
    (if mask.covers x (y + 1) then [] else [⟨⟨x + 1, y + 1⟩, .west⟩]) ++
    (if mask.covers (x - 1) y then [] else [⟨⟨x, y + 1⟩, .north⟩])

/-- The boundary edges of a mask, cell by cell. -/
def boundary (mask : Mask) : List Edge :=
  mask.filledCells.flatMap mask.cellBoundary

end Mask
end BattleMap
