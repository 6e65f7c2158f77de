import BattleMap.Painting
import BattleMap.Scene.Record
import BattleMap.Scene.Svg
import BattleMap.Storage

namespace BattleMap

/-!
# Saving scenes

A scene can be saved as a vector drawing, as a painting, or as a record.  Only a
record makes the directories that its path needs.  A painting or a record that
cannot be made leaves the storage alone.  The file of a vector drawing is opened
first and stays behind without content, and so does that of a record with a
number too long to be written.
-/

namespace StorageAction

/-- A step that does not touch the storage. -/
def ofExcept : Except Fault α -> StorageAction α
  | .ok result => return result
  | .error fault => throw fault

end StorageAction

namespace Scene

def saveSvg (scene : Scene) (withGrid : Bool) (path : String) : StorageAction Unit := do
  StorageAction.write path (.ofText "")
  StorageAction.write path (.ofText (← StorageAction.ofExcept (scene.toSvg withGrid)))

def savePainting (scene : Scene) (withGrid : Bool) (path : String) : StorageAction Unit := do
  let painting ← StorageAction.ofExcept (scene.toPainting withGrid)
  StorageAction.ofExcept painting.checkSheet
  StorageAction.write path (.painting painting)

def saveRecord (scene : Scene) (path : String) : StorageAction Unit := do
  StorageAction.saveRecord path (← StorageAction.ofExcept scene.toRecord)

end Scene
end BattleMap
