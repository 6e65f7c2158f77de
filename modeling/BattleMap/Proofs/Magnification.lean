import BattleMap.Proofs.Extent
import BattleMap.Proofs.Rays
import BattleMap.Scene.Record

namespace BattleMap

/-!
# Loops and their images in pixels

A cell of a map becomes a square of pixels, and a loop is moved there by multiplying
its corners.  Its image winds around each pixel as the loop winds around the cell of
that pixel, so the winding numbers can be taken before or after the change to
pixels.  This needs nothing of the loops but that no corner lies before the grid:
they may cross themselves, reach past the grid, and have slanted sides, which
are not counted in either place.

A saved scene tells of each loop whether it is a hole, and finds this from the
corners in pixels.  As long as the sums are exact it is what the loop itself would
give, since areas are multiplied by a square.
-/

/-- The number in a column and a row of a table. -/
def entry? (table : List (List Int)) (x y : Nat) : Option Int :=
  table[y]?.bind fun row => row[x]?

theorem entry?_cellTable (value : Regions.Cell -> Int) {width height x y : Nat} (column : x < width)
    (row : y < height) :
    entry? (cellTable width height value) x y = some (value ((x : Int), (y : Int))) := by
  unfold entry? cellTable
  rw [List.getElem?_map, List.getElem?_range row, Option.map_some, Option.bind_some,
    List.getElem?_map, List.getElem?_range column, Option.map_some]

/-- Two tables of winding numbers agree if every cell of the first becomes a square of
places of the second. -/
def Magnifies (scale width height : Nat) (cells pixels : List (List Int)) : Prop :=
  forall x y, x < width * scale -> y < height * scale ->
    Exists fun number => entry? pixels x y = some number ∧
      entry? cells (x / scale) (y / scale) = some number

namespace Loop

/-- The counters of the pixels of a cell show what the counter of the cell shows. -/
theorem magnifies_windingRows {scale : Nat} (positive : 0 < scale) {loops : List (Loop Int)}
    (nonneg : forall loop, loop ∈ loops -> forall v, v ∈ loop.points -> v.IsNonneg)
    (width height : Nat) :
    Magnifies scale width height (windingRows (loops.flatMap latticeUprights) width height)
      (windingRows ((loops.map (magnified scale)).flatMap latticeUprights) (width * scale)
        (height * scale)) := by
  rw [windingRows_flatMap_latticeUprights nonneg,
    windingRows_flatMap_latticeUprights (isNonneg_of_mem_magnified nonneg)]
  intro x y column row
  refine ⟨_, entry?_cellTable _ column row, ?_⟩
  have left : x / scale < width := Nat.div_lt_of_lt_mul (Nat.mul_comm _ scale ▸ column)
  have low : y / scale < height := Nat.div_lt_of_lt_mul (Nat.mul_comm _ scale ▸ row)
  rw [windingSum_magnified (Int.natCast_pos.mpr positive), ← Int.natCast_ediv, ← Int.natCast_ediv]
  exact entry?_cellTable (fun cell => wrapped (windingSum loops cell)) left low

theorem HasExactSums.of_magnified {scale : Nat} (positive : 0 < scale) {loop : Loop Int}
    (exact : (loop.magnified scale).HasExactSums) : loop.HasExactSums := by
  have smaller : forall n : Int, Area.isExact (n * (scale * scale)) = true ->
      Area.isExact n = true := by
    intro n small
    have bound : (n * (scale * scale)).natAbs ≤ Number.exactLimit := of_decide_eq_true small
    rw [Int.natAbs_mul, ← Int.natCast_mul, Int.natAbs_natCast] at bound
    exact decide_eq_true
      (Nat.le_trans (Nat.le_mul_of_pos_right _ (Nat.mul_pos positive positive)) bound)
  intro before side after split
  have multiples := hasExactSums_magnified_iff.mp exact before side after split
  exact ⟨smaller _ multiples.1, smaller _ multiples.2⟩

/-- What is found of a loop from its corners and from their images in pixels. -/
structure KeepsSense (loop : Loop Int) (scale : Nat) : Prop where
  shoelace : (loop.magnified scale).shoelace = scale * scale * loop.shoelace
  area : (loop.magnified scale).HasExactSums ->
    loop.toNumbers.area = .ok (.halves loop.shoelace) ∧
      (loop.magnified scale).toNumbers.area = .ok (.halves (scale * scale * loop.shoelace))
  isHole : (loop.magnified scale).HasExactSums ->
    loop.toNumbers.isHole = .ok (decide (loop.shoelace < 0)) ∧
      (loop.magnified scale).toNumbers.isHole = .ok (decide (loop.shoelace < 0))

theorem keepsSense {scale : Nat} (positive : 0 < scale) (loop : Loop Int) : loop.KeepsSense scale := by
  have square : (loop.magnified scale).shoelace = scale * scale * loop.shoelace := by
    rw [shoelace_magnified, Int.mul_comm]
  refine ⟨square, fun exact => ⟨?_, ?_⟩, fun exact => ⟨?_, ?_⟩⟩
  · exact area_toNumbers (exact.of_magnified positive)
  · rw [area_toNumbers exact, square]
  · exact isHole_toNumbers (exact.of_magnified positive)
  · rw [isHole_toNumbers exact]
    exact congrArg Except.ok (decide_eq_decide.mpr (loop.shoelace_magnified_neg_iff positive))

end Loop

/-! ## Saved scenes -/

namespace Json

/-- The value of a field of a record. -/
def field? (name : String) : Json -> Option Json
  | .record fields => fields.lookup name
  | _ => none

/-- The elements of a list. -/
def items : Json -> List Json
  | .list items => items
  | _ => []

end Json

namespace Scene

/-- What a saved scene says of its loops, in order: whether each of them is a hole. -/
def holeFlags (record : Json) : List (Option Json) :=
  ((record.field? "loops").elim [] Json.items).map (Json.field? "hole")

/-- The records of loops have the flags of the loops. -/
theorem mapM_loopRecord {loops : List (Loop Number)} {flags : List Bool}
    (found : loops.mapM Loop.isHole = .ok flags) :
    Exists fun entries => loops.mapM loopRecord = .ok entries ∧
      entries.map (Json.field? "hole") = flags.map fun flag => some (.bool flag) := by
  induction loops generalizing flags with
  | nil =>
      cases found
      exact ⟨[], rfl, rfl⟩
  | cons loop rest later =>
      rw [List.mapM_cons] at found
      rcases Outcome.bind_eq_ok.mp found with ⟨flag, here, found⟩
      rcases Outcome.bind_eq_ok.mp found with ⟨others, behind, done⟩
      cases done
      rcases later behind with ⟨entries, recorded, shown⟩
      refine ⟨.record [("points", .list (loop.points.map pointRecord)), ("hole", .bool flag)] ::
        entries, ?_, ?_⟩
      · rw [List.mapM_cons, recorded]
        exact Outcome.bind_eq_ok.mpr ⟨_, Outcome.bind_eq_ok.mpr ⟨_, here, rfl⟩, rfl⟩
      · rw [List.map_cons, shown]
        simp only [Json.field?, List.lookup_cons, String.reduceBEq, List.map_cons]

/-- A scene in whole pixels can be saved, and its record has the flags of its loops. -/
theorem exists_toRecord {scene : Scene} {scale : Int} {flags : List Bool}
    (cellSize : scene.cellSize = .whole scale) (found : scene.loops.mapM Loop.isHole = .ok flags) :
    Exists fun record => scene.toRecord = .ok record ∧
      holeFlags record = flags.map fun flag => some (.bool flag) := by
  rcases mapM_loopRecord found with ⟨entries, recorded, shown⟩
  have wide : scene.width = .ok (.whole (scene.grid.width * scale)) := by
    unfold width
    rw [cellSize]
    rfl
  have high : scene.height = .ok (.whole (scene.grid.height * scale)) := by
    unfold height
    rw [cellSize]
    rfl
  refine ⟨_, Outcome.bind_eq_ok.mpr ⟨_, wide, Outcome.bind_eq_ok.mpr ⟨_, high,
    Outcome.bind_eq_ok.mpr ⟨_, recorded, rfl⟩⟩⟩, ?_⟩
  rw [← shown]
  unfold holeFlags
  simp only [Json.field?, List.lookup_cons, String.reduceBEq, Option.elim_some, Json.items]

/-- Loops keep no scene from being projected: it is the one of the furnishings alone, with the
images of the loops added. -/
theorem project_eq_map (grid : GridSize) (loops : List (Loop Int)) (lines : List SideLine)
    (circles : List Circle) (squares : List CellSquare) (scale : Int) (fraction : Number) :
    project grid (loops.map Loop.toNumbers) lines circles squares (some (.whole scale)) fraction =
      (project grid [] lines circles squares (some (.whole scale)) fraction).map fun scene =>
        { scene with loops := (loops.map (Loop.magnified scale)).map Loop.toNumbers } := by
  unfold project
  cases checked : checkCellSize (some (.whole scale)) with
  | error fault => rfl
  | ok size =>
      rw [eq_of_checkCellSize_eq_ok checked]
      change ((loops.map Loop.toNumbers).mapM (Loop.scaled (.whole scale)) >>= _) = _ <$> (_ >>= _)
      rw [Loop.mapM_scaled_toNumbers]
      simp only [map_bind, map_pure]
      rfl

end Scene

/-- Loops scaled by a whole number wind around each pixel as the loops themselves wind
around the cell of the pixel.  The program fails to find these numbers only if a grid
is too large to be held in memory.  Areas are multiplied by the square of the number,
so that a scene in pixels, when it is saved, says of each loop whether it is a hole as
the loop itself does, as long as the sums in pixels are exact.  The scene is there whenever
it is without the loops. -/
theorem windingGrid_scaled {loops : List (Loop Int)}
    (nonneg : forall loop, loop ∈ loops -> forall v, v ∈ loop.points -> v.IsNonneg)
    {scale : Nat} (positive : 1 ≤ scale) (width height : Nat) :
    Exists fun scaled =>
      (loops.map Loop.toNumbers).mapM (Loop.scaled (.whole scale)) = .ok scaled ∧
      scaled = (loops.map (Loop.magnified scale)).map Loop.toNumbers ∧
      (Exists fun uprights => Exists fun others =>
        uprightsOf (loops.map Loop.toNumbers) = .ok uprights ∧ uprightsOf scaled = .ok others ∧
        windingGrid (loops.map Loop.toNumbers) (width : Int) (height : Int) =
          ((Memory.checkGrid windingBytes (width : Int) (height : Int)).map fun _ =>
            windingRows uprights width height) ∧
        windingGrid scaled ((width : Int) * scale) ((height : Int) * scale) =
          ((Memory.checkGrid windingBytes ((width : Int) * scale) ((height : Int) * scale)).map fun _ =>
            windingRows others (width * scale) (height * scale)) ∧
        Magnifies scale width height (windingRows uprights width height)
          (windingRows others (width * scale) (height * scale))) ∧
      (forall loop, loop ∈ loops -> loop.KeepsSense scale) ∧
      forall (grid : GridSize) (lines : List SideLine) (circles : List Circle)
        (squares : List CellSquare) (fraction : Number),
        (Scene.project grid (loops.map Loop.toNumbers) lines circles squares (some (.whole scale))
            fraction =
          (Scene.project grid [] lines circles squares (some (.whole scale)) fraction).map
            fun scene => { scene with loops := scaled }) ∧
        forall scene, Scene.project grid (loops.map Loop.toNumbers) lines circles squares
            (some (.whole scale)) fraction = .ok scene ->
          (forall loop, loop ∈ loops -> (loop.magnified scale).HasExactSums) ->
            Exists fun record => scene.toRecord = .ok record ∧
              Exists fun flags => (loops.map Loop.toNumbers).mapM Loop.isHole = .ok flags ∧
                Scene.holeFlags record = flags.map fun flag => some (.bool flag) := by
  refine ⟨_, Loop.mapM_scaled_toNumbers scale loops, rfl, ⟨_, _, Loop.uprightsOf_toNumbers _,
    Loop.uprightsOf_toNumbers _, ?_, ?_, ?_⟩, fun loop _ => loop.keepsSense positive, ?_⟩
  · exact windingGrid_toNumbers loops width height
  · rw [← Int.natCast_mul, ← Int.natCast_mul]
    exact windingGrid_toNumbers _ (width * scale) (height * scale)
  · exact Loop.magnifies_windingRows positive nonneg width height
  · intro grid lines circles squares fraction
    refine ⟨Scene.project_eq_map grid loops lines circles squares scale fraction, ?_⟩
    intro scene projected exact
    rcases Scene.project_eq_ok projected with ⟨⟨cellSize, _, shown⟩, _⟩
    have senses := fun loop member =>
      (Loop.keepsSense positive loop).isHole (exact loop member)
    have flags : scene.loops.mapM Loop.isHole =
        .ok (loops.map fun loop => decide (loop.shoelace < 0)) := by
      rw [shown, List.map_map, List.mapM_map]
      exact Outcome.mapM_eq_ok fun loop member => (senses loop member).2
    rcases Scene.exists_toRecord cellSize flags with ⟨record, saved, recorded⟩
    refine ⟨record, saved, _, ?_, recorded⟩
    rw [List.mapM_map]
    exact Outcome.mapM_eq_ok fun loop member => (senses loop member).1

/-- The two loops of a wall around a cell, part of which lies beyond three columns and rows. -/
def wallLoops : List (Loop Int) :=
  [⟨[⟨1, 1⟩, ⟨4, 1⟩, ⟨4, 4⟩, ⟨1, 4⟩]⟩, ⟨[⟨2, 2⟩, ⟨2, 3⟩, ⟨3, 3⟩, ⟨3, 2⟩]⟩]

theorem windingGrid_scaled_wallLoops :
    ((forall loop, loop ∈ wallLoops -> forall v, v ∈ loop.points -> v.IsNonneg) ∧ 1 ≤ 2) ∧
      Exists fun scaled => Exists fun pixels =>
        (wallLoops.map Loop.toNumbers).mapM (Loop.scaled (.whole 2)) = .ok scaled ∧
        windingGrid scaled (6 : Int) 6 = .ok pixels ∧
        Magnifies 2 3 3 [[0, 0, 0], [0, 1, 1], [0, 1, 0]] pixels ∧
        Exists fun scene : Scene => Scene.project ⟨3, 3⟩ (wallLoops.map Loop.toNumbers) [] [] []
            (some (.whole 2)) Scene.defaultSquareFraction = .ok scene ∧
          Exists fun record => scene.toRecord = .ok record ∧
            Scene.holeFlags record = [some (.bool false), some (.bool true)] := by
  have nonneg : forall loop, loop ∈ wallLoops -> forall v, v ∈ loop.points -> v.IsNonneg := by
    unfold Point.IsNonneg
    decide
  rcases windingGrid_scaled nonneg (show 1 ≤ 2 by decide) 3 3 with
    ⟨scaled, moved, _, ⟨uprights, others, _, _, cells, pixels, magnifies⟩, senses, saved⟩
  have table : windingGrid (wallLoops.map Loop.toNumbers) (3 : Int) 3 =
      .ok [[0, 0, 0], [0, 1, 1], [0, 1, 0]] := by decide +kernel
  have rows : windingRows uprights 3 3 = [[0, 0, 0], [0, 1, 1], [0, 1, 0]] :=
    Except.ok.inj (cells.symm.trans table)
  rw [rows] at magnifies
  have exact : forall loop, loop ∈ wallLoops -> (loop.magnified 2).HasExactSums := by
    intro loop member
    have small : forall loop, loop ∈ wallLoops -> (loop.magnified 2).IsRectilinear 8 8 ∧
        (loop.magnified 2).points.length * (8 * 8) ≤ Number.exactLimit := by decide
    exact (small loop member).1.hasExactSums (small loop member).2
  rcases saved ⟨3, 3⟩ [] [] [] Scene.defaultSquareFraction with ⟨projected, saved⟩
  rcases saved _ projected exact with ⟨record, written, flags, found, shown⟩
  have same : flags = [false, true] := Except.ok.inj (found.symm.trans (by decide +kernel))
  rw [same] at shown
  exact ⟨⟨nonneg, by decide⟩, scaled, _, moved, pixels, magnifies, _, projected, record, written,
    shown⟩

end BattleMap
