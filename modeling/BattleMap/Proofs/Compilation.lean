import BattleMap.Proofs.Interleaving

namespace BattleMap

open Regions (Cell)

/-!
# A scene shows what its text says

A text that compiles becomes a scene whose loops, drawn in pixels, cover exactly
the cells that its stamps leave filled.  The steps on the way have their own
theorems: the statements of the text fill the floor plan, the loops of the floor
plan wind around its filled cells, and multiplying all coordinates spreads each
cell over a square of pixels.
-/

/-! ## Loops in pixels -/

theorem crossing_mul {scale : Int} (positive : 0 < scale) (x y : Int) (a b : Vertex) :
    crossing (x, y) (a.map (· * scale)) (b.map (· * scale)) =
      crossing (x / scale, y / scale) a b := by
  have columns : a.x * scale = b.x * scale ↔ a.x = b.x :=
    Int.mul_eq_mul_right_iff (Int.ne_of_gt positive)
  have below : forall u v : Int, u / scale < v ↔ u < v * scale :=
    fun u v => Int.ediv_lt_iff_lt_mul positive
  simp only [crossing, Point.map, columns, below]
  congr

namespace Loop

/-- The loop with every coordinate multiplied. -/
def magnified (scale : Int) (loop : Loop Int) : Loop Int :=
  loop.map (· * scale)

theorem scaled_toNumbers (scale : Int) (loop : Loop Int) :
    loop.toNumbers.scaled (.whole scale) = .ok (loop.magnified scale).toNumbers := by
  have points : (loop.points.map (Point.map Number.whole)).mapM (Point.scaled (.whole scale)) =
      .ok (loop.points.map fun v => (v.map (· * scale)).map Number.whole) := by
    rw [List.mapM_map]
    exact Outcome.mapM_eq_ok fun _ _ => rfl
  unfold scaled
  change (List.mapM _ (loop.points.map (Point.map Number.whole)) >>= fun points => _) = _
  rw [points]
  unfold toNumbers magnified map
  rw [List.map_map]
  rfl

/-- A pixel is wound around as the cell it belongs to. -/
theorem winding_magnified {scale : Int} (positive : 0 < scale) (loop : Loop Int) (x y : Int) :
    (loop.magnified scale).winding (x, y) = loop.winding (x / scale, y / scale) := by
  unfold winding magnified
  rw [sides_map, List.map_map]
  apply congrArg
  apply List.map_congr_left
  intro side _
  exact crossing_mul positive x y side.1 side.2

theorem windingSum_magnified {scale : Int} (positive : 0 < scale) (loops : List (Loop Int))
    (x y : Int) :
    windingSum (loops.map (magnified scale)) (x, y) = windingSum loops (x / scale, y / scale) := by
  unfold windingSum
  rw [List.map_map]
  apply congrArg
  apply List.map_congr_left
  intro loop _
  exact winding_magnified positive loop x y

end Loop

/-! ## From the text to the scene -/

namespace Document

instance (document : Document) (x y : Nat) : Decidable (document.Fills x y) :=
  decidable_of_iff _ (Stamp.foldl_changed_eq_true_iff _)

/-- The cells that a document fills, each of them as a square of pixels. -/
def picture (document : Document) (scale : Nat) : Mask :=
  Mask.ofFn (document.grid.item.width.toNat * scale) (document.grid.item.height.toNat * scale)
    fun x y => document.Fills (x / scale) (y / scale)

theorem filled_picture_iff {document : Document} {scale x y : Nat}
    (column : x < (document.picture scale).width) (row : y < (document.picture scale).height) :
    (document.picture scale).filled x y = true ↔ document.Fills (x / scale) (y / scale) := by
  have inside : x < document.grid.item.width.toNat * scale ∧
      y < document.grid.item.height.toNat * scale := ⟨column, row⟩
  unfold picture
  rw [Mask.filled_ofFn, decide_eq_true inside.1, decide_eq_true inside.2, Bool.true_and,
    Bool.true_and, decide_eq_true_iff]

/-- The loops of the floor plan, drawn in pixels, wind once around the pixels of
the picture and around no others. -/
theorem windingSum_picture {text : List Char} {document : Document} {survey : Survey}
    {chains : List Chain} {scale : Nat} (positive : 1 ≤ scale)
    (read : Document.read text = .ok document) (surveyed : document.survey = .ok survey)
    (traced : Traced survey.floor chains) {x y : Nat} (column : x < (document.picture scale).width)
    (row : y < (document.picture scale).height) :
    Loop.windingSum ((chains.map Chain.toLoop).map (Loop.magnified scale)) ((x : Int), (y : Int)) =
      if (document.picture scale).filled x y then 1 else 0 := by
  rcases survey_spec read surveyed with ⟨_, width, height, fills⟩
  have left : x / scale < survey.floor.width := by
    rw [width]
    exact Nat.div_lt_of_lt_mul (Nat.mul_comm _ scale ▸ column)
  have low : y / scale < survey.floor.height := by
    rw [height]
    exact Nat.div_lt_of_lt_mul (Nat.mul_comm _ scale ▸ row)
  rw [Loop.windingSum_magnified (Int.natCast_pos.mpr positive), ← Int.natCast_ediv,
    ← Int.natCast_ediv, traced.windingSum_loops_natCast]
  simp only [filled_picture_iff column row, fills _ _ left low]

end Document

/-- A scene shows a grid, the loops of a floor plan and the furnishings of a
survey, with cells of the given size. -/
structure Scene.Shows (scene : Scene) (grid : GridSize) (loops : List (Loop Int))
    (furnishings : Furnishings) (scale : Int) : Prop where
  cellSize : scene.cellSize = .whole scale
  grid : scene.grid = grid
  loops : scene.loops = (loops.map (Loop.magnified scale)).map Loop.toNumbers
  lines : (furnishings.lines.map (·.item)).mapM (projectLine (.whole scale)) = .ok scene.lines
  circles : (furnishings.circles.map (·.item)).mapM (projectCircle (.whole scale)) =
    .ok scene.circles
  squares : (furnishings.squares.map (·.item)).mapM
    (projectSquare (.whole scale) defaultSquareFraction) = .ok scene.squares

/-- Loops of whole corners stay whole when a cell has a whole number of pixels. -/
theorem Loop.mapM_scaled_toNumbers (scale : Int) (loops : List (Loop Int)) :
    (loops.map Loop.toNumbers).mapM (Loop.scaled (.whole scale)) =
      .ok ((loops.map (Loop.magnified scale)).map Loop.toNumbers) := by
  rw [List.mapM_map, List.map_map]
  exact Outcome.mapM_eq_ok fun loop _ => Loop.scaled_toNumbers scale loop

theorem Scene.eq_of_checkCellSize_eq_ok {size used : Number}
    (checked : checkCellSize (some size) = .ok used) : used = size := by
  unfold checkCellSize at checked
  dsimp only at checked
  split at checked
  · exact absurd checked Outcome.bind_error_ne_ok
  · exact (Except.ok.inj checked).symm

/-- What a scene with a whole number of pixels for each cell is projected from. -/
theorem Scene.project_eq_ok {grid : GridSize} {loops : List (Loop Int)} {lines : List SideLine}
    {circles : List Circle} {squares : List CellSquare} {scale : Int} {fraction : Number}
    {scene : Scene}
    (projected : project grid (loops.map Loop.toNumbers) lines circles squares (some (.whole scale))
      fraction = .ok scene) :
    (scene.cellSize = .whole scale ∧ scene.grid = grid ∧
        scene.loops = (loops.map (Loop.magnified scale)).map Loop.toNumbers) ∧
      lines.mapM (projectLine (.whole scale)) = .ok scene.lines ∧
      circles.mapM (projectCircle (.whole scale)) = .ok scene.circles ∧
      squares.mapM (projectSquare (.whole scale) fraction) = .ok scene.squares := by
  rcases Outcome.bind_eq_ok.mp projected with ⟨size, checked, scaling⟩
  rcases Outcome.bind_eq_ok.mp scaling with ⟨scaled, found, drawing⟩
  rcases Outcome.bind_eq_ok.mp drawing with ⟨drawnLines, foundLines, drawing⟩
  rcases Outcome.bind_eq_ok.mp drawing with ⟨drawnCircles, foundCircles, drawing⟩
  rcases Outcome.bind_eq_ok.mp drawing with ⟨drawnSquares, foundSquares, done⟩
  cases done
  have same := eq_of_checkCellSize_eq_ok checked
  subst same
  rw [Loop.mapM_scaled_toNumbers] at found
  exact ⟨⟨rfl, rfl, (Except.ok.inj found).symm⟩, foundLines, foundCircles, foundSquares⟩

/-- A text that compiles has a document, a survey and an outline, which the scene
shows. -/
theorem Scene.exists_shows_of_ofText {text : List Char} {scale : Int} {scene : Scene}
    (compiled : Scene.ofText text (some (.whole scale)) = .ok scene) :
    Exists fun document => Document.read text = .ok document ∧
      Exists fun survey => document.survey = .ok survey ∧
        Exists fun loops => survey.floor.outline = .ok loops ∧
          scene.Shows document.grid.item loops survey.furnishings scale := by
  rcases Outcome.bind_eq_ok.mp compiled with ⟨document, read, compiling⟩
  rcases Outcome.bind_eq_ok.mp compiling with ⟨survey, surveyed, tracing⟩
  rcases Outcome.bind_eq_ok.mp tracing with ⟨loops, outlined, projecting⟩
  rcases Scene.project_eq_ok projecting with
    ⟨⟨cellSize, grid, magnified⟩, lines, circles, squares⟩
  exact ⟨document, read, survey, surveyed, loops, outlined, cellSize, grid, magnified, lines,
    circles, squares⟩

theorem Loop.isNonneg_of_mem_magnified {scale : Nat} {loops : List (Loop Int)}
    (nonneg : forall loop, loop ∈ loops -> forall v, v ∈ loop.points -> v.IsNonneg) :
    forall loop, loop ∈ loops.map (magnified scale) -> forall v, v ∈ loop.points -> v.IsNonneg := by
  intro loop listed v member
  rcases List.mem_map.mp listed with ⟨original, originalListed, rfl⟩
  rcases List.mem_map.mp member with ⟨corner, cornerMember, rfl⟩
  have bounds := nonneg original originalListed corner cornerMember
  exact ⟨Int.mul_nonneg bounds.1 (Int.natCast_nonneg scale),
    Int.mul_nonneg bounds.2 (Int.natCast_nonneg scale)⟩

/-- A text that compiles at a whole number of pixels for each cell becomes a
scene whose loops wind once around the pixels of the cells that its stamps leave
filled, and around no others.  The grid of winding numbers, and with it the mask
of the loops, can fail only if there are too many pixels to be held in memory. -/
theorem Scene.windingGrid_ofText {text : List Char} {scale : Nat} {scene : Scene}
    (positive : 1 ≤ scale)
    (compiled : Scene.ofText text (some (.whole scale)) = .ok scene) :
    Exists fun document => Document.read text = .ok document ∧ scene.grid = document.grid.item ∧
      (Exists fun uprights => uprightsOf scene.loops = .ok uprights ∧
        forall x y : Nat, (x : Int) < scene.grid.width * scale ->
          (y : Int) < scene.grid.height * scale ->
          windingNumber uprights (scene.grid.width * scale).toNat
              (scene.grid.height * scale).toNat x y =
            if document.Fills (x / scale) (y / scale) then 1 else 0) ∧
      windingGrid scene.loops (scene.grid.width * scale) (scene.grid.height * scale) =
        ((Memory.checkGrid windingBytes (scene.grid.width * scale)
            (scene.grid.height * scale)).map fun _ =>
          (document.picture scale).rows.map fun row =>
            row.map fun isFilled => if isFilled then 1 else 0) ∧
      Mask.ofLoops scene.loops (scene.grid.width * scale) (scene.grid.height * scale) =
        (Memory.checkGrid windingBytes (scene.grid.width * scale)
          (scene.grid.height * scale)).map fun _ => document.picture scale := by
  rcases Scene.exists_shows_of_ofText compiled with
    ⟨document, read, survey, surveyed, loops, outlined, shows⟩
  have sameGrid := shows.grid
  have sameLoops := shows.loops
  have size := (Document.survey_spec read surveyed).1
  rcases survey.floor.exists_traced with ⟨chains, tracedLoops, traced⟩
  have same : loops = chains.map Chain.toLoop := Except.ok.inj (outlined.symm.trans tracedLoops)
  subst same
  have pixelWidth : scene.grid.width * scale = ((document.picture scale).width : Int) := by
    rw [sameGrid]
    exact (congrArg (· * (scale : Int)) (Int.toNat_of_nonneg (Int.le_of_lt size.1)).symm)
  have pixelHeight : scene.grid.height * scale = ((document.picture scale).height : Int) := by
    rw [sameGrid]
    exact (congrArg (· * (scale : Int)) (Int.toNat_of_nonneg (Int.le_of_lt size.2)).symm)
  have drawn := draws_toNumbers (Loop.isNonneg_of_mem_magnified traced.isNonneg_of_mem_loops)
    fun x y column row => Document.windingSum_picture positive read surveyed traced column row
  rw [← sameLoops, ← pixelWidth, ← pixelHeight] at drawn
  rcases drawn with ⟨⟨uprights, found, numbers⟩, grid, mask⟩
  refine ⟨document, read, sameGrid, ⟨uprights, found, ?_⟩, grid, mask⟩
  intro x y column row
  rw [pixelWidth] at column ⊢
  rw [pixelHeight] at row ⊢
  have inColumn := Int.ofNat_lt.mp column
  have inRow := Int.ofNat_lt.mp row
  rw [Int.toNat_natCast, Int.toNat_natCast, numbers x y inColumn inRow]
  simp only [Document.filled_picture_iff inColumn inRow]

/-! ## A room of two cells, one of which is taken away again -/

def trimmedRoom : List Char :=
  "grid 2,1\nrect at 0,0 width 2 height 1\nxor rect at 1,0 width 1 height 1".toList

def trimmedDocument : Document where
  grid := ⟨⟨2, 1⟩, some 1, some 1⟩
  statements :=
    [⟨.stamp ⟨.fill, ⟨0, 0, 2, 1⟩⟩, some 2, some 1⟩, ⟨.stamp ⟨.turn, ⟨1, 0, 1, 1⟩⟩, some 3, some 1⟩]

def trimmedFloor : Mask :=
  Mask.ofFn 2 1 fun x _ => x = 0

def trimmedScene : Scene where
  cellSize := .whole 2
  grid := ⟨2, 1⟩
  loops := [Loop.toNumbers ⟨[⟨0, 0⟩, ⟨2, 0⟩, ⟨2, 2⟩, ⟨0, 2⟩]⟩]
  lines := []
  circles := []
  squares := []

private theorem read_trimmedRoom : Document.read trimmedRoom = .ok trimmedDocument := by
  decide +kernel

private theorem survey_trimmedDocument :
    trimmedDocument.survey = .ok ⟨trimmedFloor, ⟨[], [], []⟩⟩ := by
  have empty : Mask.forGrid trimmedDocument.grid.item = .ok (Mask.blank 2 1) := rfl
  unfold Document.survey
  dsimp only
  rw [empty]
  rfl

private theorem outline_trimmedFloor :
    trimmedFloor.outline = .ok [⟨[⟨0, 0⟩, ⟨1, 0⟩, ⟨1, 1⟩, ⟨0, 1⟩]⟩] := by
  decide +kernel

private theorem ofText_trimmedRoom :
    Scene.ofText trimmedRoom (some (.whole 2)) = .ok trimmedScene := by
  unfold Scene.ofText
  rw [read_trimmedRoom]
  change trimmedDocument.compile _ = _
  unfold Document.compile
  rw [survey_trimmedDocument]
  change trimmedFloor.outline >>= _ = _
  rw [outline_trimmedFloor]
  rfl

theorem Scene.windingGrid_trimmedRoom :
    Scene.ofText trimmedRoom (some (.whole 2)) = .ok trimmedScene ∧
      windingGrid trimmedScene.loops (4 : Int) 2 = .ok [[1, 1, 0, 0], [1, 1, 0, 0]] := by
  refine ⟨ofText_trimmedRoom, ?_⟩
  rcases Scene.windingGrid_ofText (by decide) ofText_trimmedRoom with ⟨document, read, _, _, grid, _⟩
  have same : document = trimmedDocument := Except.ok.inj (read.symm.trans read_trimmedRoom)
  rw [same] at grid
  exact grid.trans rfl

end BattleMap
