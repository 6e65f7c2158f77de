import BattleMap.Proofs.Extent
import BattleMap.Proofs.Strokes

namespace BattleMap

/-!
# Painting the larger loops first

The loops of a scene are painted one over the other, the largest first, each in
the colour of what it is the boundary of.  The innermost loop around a cell has
the smallest area of all loops around it.  So it is painted last among them and
decides the colour: the cell is filled if the loop is an outer boundary, and it
has the colour of the sheet if the loop is that of a hole or if there is none.
-/

/-! ## Colours one over the other -/

section Layers

variable {α : Type} {items : List α} {colourOf : α -> Option Colour} {ground : Colour}

theorem foldl_getD_eq_ground
    (each : forall item, item ∈ items -> colourOf item = none ∨ colourOf item = some ground) :
    items.foldl (fun colour item => (colourOf item).getD colour) ground = ground := by
  induction items with
  | nil => rfl
  | cons item rest later =>
      have unchanged : (colourOf item).getD ground = ground := by
        rcases each item List.mem_cons_self with none | same
        · rw [none]
          rfl
        · rw [same]
          rfl
      rw [List.foldl_cons, unchanged]
      exact later fun other member => each other (List.mem_cons_of_mem _ member)

/-- If items are painted by decreasing size, the smallest one that is there gives
the colour. -/
theorem foldl_getD_eq_of_smallest (size : α -> Nat)
    (sorted : items.Pairwise fun a b => size b ≤ size a) {item : α} (listed : item ∈ items)
    {colour : Colour} (paints : colourOf item = some colour)
    (others : forall other, other ∈ items ->
      colourOf other = none ∨ other = item ∨ size item < size other) :
    items.foldl (fun colour item => (colourOf item).getD colour) ground = colour := by
  rcases List.append_of_mem listed with ⟨before, after, rfl⟩
  have behind := (List.pairwise_cons.mp (List.pairwise_append.mp sorted).2.1).1
  rw [List.foldl_append, List.foldl_cons, paints]
  apply foldl_getD_eq_ground
  intro other member
  rcases others other (List.mem_append_right _ (List.mem_cons_of_mem _ member)) with
    none | same | larger
  · exact Or.inl none
  · rw [same]
    exact Or.inr paints
  · exact absurd (behind other member) (Nat.not_le.mpr larger)

end Layers

namespace Chain

/-- Chains by the areas of their loops, the largest first. -/
def bySize (chains : List Chain) : List Chain :=
  chains.mergeSort fun a b => b.toLoop.shoelace.natAbs ≤ a.toLoop.shoelace.natAbs

theorem bySize_perm (chains : List Chain) : (bySize chains).Perm chains :=
  List.mergeSort_perm _ _

theorem pairwise_bySize (chains : List Chain) : (bySize chains).Pairwise fun a b =>
    b.toLoop.shoelace.natAbs ≤ a.toLoop.shoelace.natAbs := by
  have sorted := @List.pairwise_mergeSort Chain
    (fun a b => b.toLoop.shoelace.natAbs ≤ a.toLoop.shoelace.natAbs)
    (fun a b c ab bc => decide_eq_true (Nat.le_trans (of_decide_eq_true bc) (of_decide_eq_true ab)))
    (fun a b => by
      rw [Bool.or_eq_true, decide_eq_true_iff, decide_eq_true_iff]
      exact Nat.le_total _ _) chains
  exact sorted.imp of_decide_eq_true

end Chain

/-! ## The polygons of an outline -/

/-- The area and the numbers of a loop in pixels, by its chain. -/
def Chain.measured (scale : Nat) (chain : Chain) : Area × Loop Number :=
  (.halves (chain.toLoop.magnified scale).shoelace, (chain.toLoop.magnified scale).toNumbers)

/-- The polygon that is painted for a chain. -/
def Chain.polygon (scale : Nat) (chain : Chain) : PixelStroke :=
  .polygon (chain.toLoop.magnified scale) (if chain.toLoop.shoelace < 0 then .sheet else .fill) .ink

theorem Chain.isLarger_measured {scale : Nat} (positive : 0 < scale) (a b : Chain) :
    (!(b.measured scale).1.isLarger (a.measured scale).1) =
      decide (b.toLoop.shoelace.natAbs ≤ a.toLoop.shoelace.natAbs) := by
  unfold measured Area.isLarger
  dsimp only
  rw [Loop.shoelace_magnified, Loop.shoelace_magnified, Int.natAbs_mul a.toLoop.shoelace,
    Int.natAbs_mul b.toLoop.shoelace, ← decide_not]
  have square : 0 < ((scale : Int) * scale).natAbs := by
    rw [← Int.natCast_mul, Int.natAbs_natCast]
    exact Nat.mul_pos positive positive
  rw [decide_eq_decide, Nat.not_lt]
  exact Nat.mul_le_mul_right_iff square

/-- If the areas of all loops are exact, the loops are painted by the areas of
their chains. -/
theorem Painting.bySize_toNumbers {chains : List Chain} {scale : Nat} (positive : 0 < scale)
    (exact : forall chain, chain ∈ chains -> (chain.toLoop.magnified scale).HasExactSums) :
    bySize (((chains.map Chain.toLoop).map (Loop.magnified scale)).map Loop.toNumbers) =
      .ok ((Chain.bySize chains).map (Chain.measured scale)) := by
  have measured : (((chains.map Chain.toLoop).map (Loop.magnified scale)).map Loop.toNumbers).mapM
      (fun loop => do return (← loop.area, loop)) = .ok (chains.map (Chain.measured scale)) := by
    rw [List.map_map, List.map_map, List.mapM_map]
    apply Outcome.mapM_eq_ok
    intro chain listed
    exact Outcome.bind_eq_ok.mpr ⟨_, Loop.area_toNumbers (exact chain listed), rfl⟩
  have defined : (chains.map (Chain.measured scale)).all (fun loop => loop.1.isDefined) = true := by
    rw [List.all_map, List.all_eq_true]
    intro chain _
    rfl
  unfold bySize
  rw [measured]
  change Except.ok (if (chains.map (Chain.measured scale)).all (fun loop => loop.1.isDefined) then _
    else _) = _
  rw [if_pos defined]
  refine congrArg Except.ok (List.map_mergeSort fun a _ b _ => ?_).symm
  exact (Chain.isLarger_measured positive a b).symm

theorem Painting.ofStroke_loopStroke {scale : Nat} (positive : 0 < scale) (chain : Chain) :
    PixelStroke.ofStroke (loopStroke (chain.measured scale)) = .ok (chain.polygon scale) := by
  have corner : forall v : Vertex, v ∈ (chain.toLoop.magnified scale).points ->
      PixelStroke.vertexOf (v.map Number.whole) = .ok (id v) := fun _ _ => rfl
  have points : ((chain.toLoop.magnified scale).toNumbers.points).mapM PixelStroke.vertexOf =
      .ok (chain.toLoop.magnified scale).points := by
    unfold Loop.toNumbers Loop.map
    rw [List.mapM_map]
    exact (Outcome.mapM_eq_ok corner).trans (congrArg Except.ok (List.map_id _))
  have sign : (chain.measured scale).1.isNegative = decide (chain.toLoop.shoelace < 0) := by
    unfold Chain.measured Area.isNegative
    exact decide_eq_decide.mpr (chain.toLoop.shoelace_magnified_neg_iff positive)
  refine Outcome.bind_eq_ok.mpr ⟨_, points, ?_⟩
  unfold Chain.polygon
  rw [sign]
  simp only [decide_eq_true_eq]
  rfl

/-! ## The colour of a pixel -/

namespace Traced

variable {mask : Mask} {chains : List Chain}

/-- The polygons of an outline leave the inside of a cell filled if the cell is
filled, and in the colour of the sheet if it is not. -/
theorem foldl_polygons (traced : Traced mask chains) {scale x y : Nat} (positive : 0 < scale)
    (interior : IsInterior scale x y) (column : x / scale < mask.width)
    (row : y / scale < mask.height) :
    (Chain.bySize chains).foldl
        (fun colour chain => ((chain.polygon scale).colourAt? x y).getD colour) .sheet =
      if mask.filled (x / scale) (y / scale) then .fill else .sheet := by
  have coloured : forall chain, chain ∈ chains -> (chain.polygon scale).colourAt? x y =
      if Chain.winding chain (((x / scale : Nat) : Int), ((y / scale : Nat) : Int)) = 0 then none
      else some (if chain.toLoop.shoelace < 0 then .sheet else .fill) := by
    intro chain listed
    rw [Int.natCast_ediv, Int.natCast_ediv]
    exact traced.colourAt?_polygon listed (Int.natCast_pos.mpr positive) interior _ _
  -- The innermost loop decides, if there is any loop around the cell.
  have decided : forall chain,
      IsInnermost chains chain (((x / scale : Nat) : Int), ((y / scale : Nat) : Int)) ->
      (Chain.bySize chains).foldl
          (fun colour chain => ((chain.polygon scale).colourAt? x y).getD colour) .sheet =
        if chain.toLoop.shoelace < 0 then .sheet else .fill := by
    rintro chain ⟨listed, inside, others⟩
    apply foldl_getD_eq_of_smallest (fun chain => chain.toLoop.shoelace.natAbs)
      (Chain.pairwise_bySize chains) ((Chain.bySize_perm chains).mem_iff.mpr listed)
    · rw [coloured chain listed, if_neg inside]
    · intro other member
      have listedOther := (Chain.bySize_perm chains).mem_iff.mp member
      by_cases around : Chain.winding other (((x / scale : Nat) : Int), ((y / scale : Nat) : Int)) = 0
      · exact Or.inl ((coloured other listedOther).trans (if_pos around))
      · exact Or.inr (others other listedOther around)
  cases state : mask.filled (x / scale) (y / scale) with
  | true =>
      rcases traced.exists_innermost_of_fills (mask.fills_natCast _ _ ▸ state) with
        ⟨chain, innermost, outer⟩
      rw [decided chain innermost, if_neg (Int.not_lt.mpr outer), if_pos rfl]
  | false =>
      rw [if_neg Bool.false_ne_true]
      rcases traced.outside_or_exists_innermost column row state with
        outside | ⟨chain, innermost, inner⟩
      · apply foldl_getD_eq_ground
        intro chain member
        have listed := (Chain.bySize_perm chains).mem_iff.mp member
        exact Or.inl ((coloured chain listed).trans (if_pos (outside chain listed)))
      · rw [decided chain innermost, if_pos inner]

/-- Strokes that leave the inside of cells as it is change nothing. -/
theorem pixelColour_layers (traced : Traced mask chains) {frames lines : List PixelStroke}
    {scale x y : Nat} (positive : 0 < scale)
    (keepFrames : forall stroke, stroke ∈ frames -> stroke.KeepsInteriors scale)
    (keepLines : forall stroke, stroke ∈ lines -> stroke.KeepsInteriors scale)
    (interior : IsInterior scale x y) (column : x / scale < mask.width)
    (row : y / scale < mask.height) :
    pixelColour (frames ++ (Chain.bySize chains).map (Chain.polygon scale) ++ lines) x y =
      if mask.filled (x / scale) (y / scale) then .fill else .sheet := by
  unfold pixelColour
  rw [List.foldl_append, List.foldl_append, List.foldl_map,
    foldl_getD_eq_ground fun stroke member => Or.inl (keepFrames stroke member x y interior),
    traced.foldl_polygons positive interior column row,
    foldl_getD_eq_ground fun stroke member => Or.inl (keepLines stroke member x y interior)]

end Traced

/-! ## The painting of a scene -/

/-- The colours of a painting, if its sheet can be laid out. -/
theorem Painting.pixels_eq {painting : Painting} {drawn : List PixelStroke}
    (strokes : painting.strokes.mapM PixelStroke.ofStroke = .ok drawn) :
    painting.pixels = painting.checkSheet.map fun _ =>
      (List.range painting.height.toNat).map fun (y : Nat) =>
        (List.range painting.width.toNat).map fun (x : Nat) => pixelColour drawn x y := by
  unfold pixels
  simp only [pixelColour_filter_reachesRow]
  cases painting.checkSheet with
  | error fault => rfl
  | ok checked =>
      exact Outcome.bind_eq_ok.mpr ⟨checked, rfl, Outcome.bind_eq_ok.mpr ⟨drawn, strokes, rfl⟩⟩

/-- A scene without circles and squares has a painting, of frames, polygons and
lines. -/
theorem Scene.exists_toPainting {scene : Scene} {grid : GridSize} {chains : List Chain}
    {furnishings : Furnishings} {scale : Nat} (positive : 0 < scale)
    (cells : 0 < grid.width ∧ 0 < grid.height)
    (shows : scene.Shows grid (chains.map Chain.toLoop) furnishings scale)
    (noCircles : scene.circles = []) (noSquares : scene.squares = [])
    (exact : forall chain, chain ∈ chains -> (chain.toLoop.magnified scale).HasExactSums)
    (withGrid : Bool) :
    Exists fun painting => scene.toPainting withGrid = .ok painting ∧
      (painting.width = grid.width * scale ∧ painting.height = grid.height * scale) ∧
      Exists fun frames => Exists fun lines =>
        painting.strokes.mapM PixelStroke.ofStroke =
            .ok (frames ++ (Chain.bySize chains).map (Chain.polygon scale) ++ lines) ∧
          (forall stroke, stroke ∈ frames -> stroke.KeepsInteriors scale) ∧
          forall stroke, stroke ∈ lines -> stroke.KeepsInteriors scale := by
  have pixels : 0 < (scale : Int) := Int.natCast_pos.mpr positive
  have side : forall length : Int, 0 < length ->
      Painting.sheetSize (.whole (length * scale)) = .ok (length * scale) := by
    intro length long
    have one : 1 ≤ length * scale := Int.mul_pos long pixels
    exact congrArg Except.ok (Int.max_eq_right one)
  have framed : Exists fun frames =>
      (if withGrid then Painting.gridFrames scene else .ok []) = .ok frames ∧
        PixelStroke.LeaveInteriors scale frames := by
    cases withGrid with
    | true => exact PixelStroke.exists_gridFrames shows.cellSize
    | false => exact ⟨[], rfl, [], rfl, fun _ member => nomatch member⟩
  rcases framed with ⟨frames, made, drawnFrames, drawn, keepFrames⟩
  rcases PixelStroke.leaveInteriors_lines shows.lines with ⟨drawnLines, lined, keepLines⟩
  have polygons : (((Chain.bySize chains).map (Chain.measured scale)).map
      Painting.loopStroke).mapM PixelStroke.ofStroke =
        .ok ((Chain.bySize chains).map (Chain.polygon scale)) := by
    rw [List.map_map, List.mapM_map]
    exact Outcome.mapM_eq_ok fun chain _ => Painting.ofStroke_loopStroke positive chain
  have scaledWidth : scene.width = .ok (.whole (grid.width * scale)) := by
    unfold width
    rw [shows.cellSize, shows.grid]
    rfl
  have scaledHeight : scene.height = .ok (.whole (grid.height * scale)) := by
    unfold height
    rw [shows.cellSize, shows.grid]
    rfl
  have ordered := Painting.bySize_toNumbers positive exact
  rw [← shows.loops] at ordered
  have painted : scene.toPainting withGrid = .ok ⟨grid.width * scale, grid.height * scale,
      frames ++ ((Chain.bySize chains).map (Chain.measured scale)).map Painting.loopStroke ++
        scene.lines.map Painting.lineStroke ++ [] ++ []⟩ := by
    unfold toPainting
    rw [scaledWidth, scaledHeight, ordered, noCircles, noSquares]
    refine Outcome.bind_eq_ok.mpr ⟨_, rfl, Outcome.bind_eq_ok.mpr ⟨_, side _ cells.1, ?_⟩⟩
    refine Outcome.bind_eq_ok.mpr ⟨_, rfl, Outcome.bind_eq_ok.mpr ⟨_, side _ cells.2, ?_⟩⟩
    cases withGrid with
    | true => exact Outcome.bind_eq_ok.mpr ⟨frames, made, rfl⟩
    | false => exact Outcome.bind_eq_ok.mpr ⟨frames, made, rfl⟩
  rw [List.append_nil, List.append_nil] at painted
  refine ⟨_, painted, ⟨rfl, rfl⟩, drawnFrames, drawnLines, ?_, keepFrames, keepLines⟩
  exact Outcome.mapM_append_eq_ok (Outcome.mapM_append_eq_ok drawn polygons) lined

/-- A circle or a square. -/
def Statement.IsEntity : Statement -> Prop
  | .circle _ | .square _ => True
  | _ => False

instance : DecidablePred Statement.IsEntity
  | .stamp _ | .line _ => .isFalse id
  | .circle _ | .square _ => .isTrue trivial

theorem Placed.circle?_eq_none_and_square?_eq_none {placed : Placed Statement}
    (plain : ¬ placed.item.IsEntity) :
    placed.circle? = none ∧ placed.square? = none := by
  rcases placed with ⟨item, _, _⟩
  cases item with
  | stamp _ => exact ⟨rfl, rfl⟩
  | line _ => exact ⟨rfl, rfl⟩
  | circle _ => exact absurd trivial plain
  | square _ => exact absurd trivial plain

/-- Without circles and squares in the text there are none in the scene. -/
theorem Scene.Shows.no_entities {scene : Scene} {grid : GridSize} {loops : List (Loop Int)}
    {statements : List (Placed Statement)} {scale : Int}
    (shows : scene.Shows grid loops (Furnishings.ofStatements statements) scale)
    (plain : forall placed, placed ∈ statements -> ¬ placed.item.IsEntity) :
    scene.circles = [] ∧ scene.squares = [] := by
  have circles := shows.circles
  have squares := shows.squares
  have noCircle : statements.filterMap Placed.circle? = [] :=
    List.filterMap_eq_nil_iff.mpr fun placed member =>
      (Placed.circle?_eq_none_and_square?_eq_none (plain placed member)).1
  have noSquare : statements.filterMap Placed.square? = [] :=
    List.filterMap_eq_nil_iff.mpr fun placed member =>
      (Placed.circle?_eq_none_and_square?_eq_none (plain placed member)).2
  unfold Furnishings.ofStatements at circles squares
  rw [noCircle] at circles
  rw [noSquare] at squares
  exact ⟨(Except.ok.inj circles).symm, (Except.ok.inj squares).symm⟩

/-- If a sheet can be laid out, its pixels fit into the memory. -/
theorem Painting.fits_of_checkSheet {painting : Painting} (checked : painting.checkSheet = .ok ()) :
    4 * painting.width * painting.height ≤ Memory.available := by
  unfold checkSheet at checked
  split at checked
  · cases checked
  · split at checked
    · cases checked
    · rename_i fits
      simp only [Bool.or_eq_true, decide_eq_true_eq, not_or, Int.not_lt] at fits
      exact fits.2

private theorem div_lt_toNat {n scale : Nat} {length : Int} (positive : 0 < scale)
    (nonneg : 0 ≤ length) (below : (n : Int) < length * scale) : n / scale < length.toNat := by
  rw [Nat.div_lt_iff_lt_mul positive, ← Int.ofNat_lt, Int.natCast_mul, Int.toNat_of_nonneg nonneg]
  exact below

/-- In the painting of a text without circles and squares, at two or more whole
pixels for each cell, every pixel inside a cell has the colour of filled cells if
the stamps of the text leave the cell filled, and the colour of the sheet if they
do not, however regions and holes lie inside each other, with or without the grid
and whatever lines there are.  For this the areas of the loops have to be exact.
They are on every sheet that can be laid out, and beyond that they are assumed
to be. -/
theorem Scene.pixels_ofText {text : List Char} {document : Document} {scale : Nat} {scene : Scene}
    (wide : 2 ≤ scale) (read : Document.read text = .ok document)
    (plain : forall placed, placed ∈ document.statements -> ¬ placed.item.IsEntity)
    (compiled : Scene.ofText text (some (.whole scale)) = .ok scene)
    (exact : (Painting.mk (document.grid.item.width * scale) (document.grid.item.height * scale)
        []).checkSheet = .ok () ∨
      forall loop : Loop Int, loop.toNumbers ∈ scene.loops -> loop.HasExactSums) (withGrid : Bool) :
    Exists fun painting => scene.toPainting withGrid = .ok painting ∧
      (painting.width = document.grid.item.width * scale ∧
        painting.height = document.grid.item.height * scale) ∧
      Exists fun rows => painting.pixels = (painting.checkSheet.map fun _ => rows) ∧
        forall x y : Nat, (x : Int) < painting.width -> (y : Int) < painting.height ->
          x % scale ≠ 0 -> y % scale ≠ 0 ->
          (rows[y]?.bind fun row => row[x]?) =
            some (if document.Fills (x / scale) (y / scale) then .fill else .sheet) := by
  rcases Scene.exists_shows_of_ofText compiled with
    ⟨source, found, survey, surveyed, loops, outlined, shows⟩
  have same : source = document := Except.ok.inj (found.symm.trans read)
  subst same
  rcases Document.survey_spec read surveyed with ⟨cells, floorWidth, floorHeight, fills⟩
  rw [Document.survey_furnishings surveyed] at shows
  rcases shows.no_entities plain with ⟨noCircles, noSquares⟩
  rcases survey.floor.exists_traced with ⟨chains, tracedLoops, traced⟩
  have sameLoops : loops = chains.map Chain.toLoop :=
    Except.ok.inj (outlined.symm.trans tracedLoops)
  subst sameLoops
  have positive : 0 < scale := by omega
  have exactSums : forall chain, chain ∈ chains ->
      (chain.toLoop.magnified scale).HasExactSums := by
    intro chain listed
    rcases exact with checked | exact
    · apply traced.hasExactSums_magnified listed wide
      have fits := Painting.fits_of_checkSheet checked
      dsimp only at fits
      rw [floorWidth, floorHeight, ← Int.ofNat_le]
      push_cast
      rw [Int.toNat_of_nonneg (Int.le_of_lt cells.1), Int.toNat_of_nonneg (Int.le_of_lt cells.2)]
      exact fits
    · apply exact
      rw [shows.loops]
      exact List.mem_map_of_mem (List.mem_map_of_mem (List.mem_map_of_mem listed))
  rcases Scene.exists_toPainting positive cells shows noCircles noSquares exactSums withGrid with
    ⟨painting, painted, ⟨width, height⟩, frames, lines, drawn, keepFrames, keepLines⟩
  refine ⟨painting, painted, ⟨width, height⟩, _, Painting.pixels_eq drawn, ?_⟩
  intro x y column row besideColumn besideRow
  have interior : IsInterior scale x y :=
    ⟨fun divides => besideColumn (Nat.mod_eq_zero_of_dvd (Int.natCast_dvd_natCast.mp divides)),
      fun divides => besideRow (Nat.mod_eq_zero_of_dvd (Int.natCast_dvd_natCast.mp divides))⟩
  have left : x / scale < survey.floor.width := by
    rw [floorWidth]
    exact div_lt_toNat positive (Int.le_of_lt cells.1) (width ▸ column)
  have low : y / scale < survey.floor.height := by
    rw [floorHeight]
    exact div_lt_toNat positive (Int.le_of_lt cells.2) (height ▸ row)
  rw [List.getElem?_map, List.getElem?_range (by omega), Option.map_some, Option.bind_some,
    List.getElem?_map, List.getElem?_range (by omega), Option.map_some,
    traced.pixelColour_layers positive keepFrames keepLines interior left low]
  simp only [fills _ _ left low]

/-! ## A yard with a tower in its middle and a gate -/

def towerYard : List Char :=
  "grid 5,5\n".toList ++ "rect at 0,0 width 5 height 5\n".toList ++
    "xor rect at 1,1 width 3 height 3\n".toList ++ "rect at 2,2 width 1 height 1\n".toList ++
    "line along top from 0,0 length 2".toList

def towerDocument : Document where
  grid := ⟨⟨5, 5⟩, some 1, some 1⟩
  statements :=
    [⟨.stamp ⟨.fill, ⟨0, 0, 5, 5⟩⟩, some 2, some 1⟩, ⟨.stamp ⟨.turn, ⟨1, 1, 3, 3⟩⟩, some 3, some 1⟩,
      ⟨.stamp ⟨.fill, ⟨2, 2, 1, 1⟩⟩, some 4, some 1⟩, ⟨.line ⟨.top, 0, 0, 2⟩, some 5, some 1⟩]

def towerScene : Scene where
  cellSize := .whole 2
  grid := ⟨5, 5⟩
  loops := [Loop.toNumbers ⟨[⟨0, 0⟩, ⟨10, 0⟩, ⟨10, 10⟩, ⟨0, 10⟩]⟩,
    Loop.toNumbers ⟨[⟨2, 2⟩, ⟨2, 8⟩, ⟨8, 8⟩, ⟨8, 2⟩]⟩,
    Loop.toNumbers ⟨[⟨4, 4⟩, ⟨6, 4⟩, ⟨6, 6⟩, ⟨4, 6⟩]⟩]
  lines := [⟨⟨.whole 0, .whole 0⟩, ⟨.whole 4, .whole 0⟩⟩]
  circles := []
  squares := []

theorem Scene.pixels_towerYard :
    Scene.ofText towerYard (some (.whole 2)) = .ok towerScene ∧
      Exists fun painting => towerScene.toPainting true = .ok painting ∧
        Exists fun rows => painting.pixels = .ok rows ∧
          (rows[1]?.bind fun row => row[1]?) = some .fill ∧
          (rows[5]?.bind fun row => row[3]?) = some .sheet ∧
          (rows[5]?.bind fun row => row[5]?) = some .fill := by
  have read : Document.read towerYard = .ok towerDocument := by decide +kernel
  have compiled : Scene.ofText towerYard (some (.whole 2)) = .ok towerScene := by
    unfold Scene.ofText
    rw [read]
    decide +kernel
  have sheet : (Painting.mk 10 10 []).checkSheet = .ok () := by decide +kernel
  rcases Scene.pixels_ofText (by decide) read (by decide) compiled (Or.inl sheet) true with
    ⟨⟨width, height, strokes⟩, painted, ⟨sameWidth, sameHeight⟩, rows, pixels, colours⟩
  dsimp only at sameWidth sameHeight colours
  subst sameWidth sameHeight
  refine ⟨compiled, _, painted, rows, pixels.trans (congrArg (Except.map _) sheet), ?_, ?_, ?_⟩
  · exact colours 1 1 (by decide) (by decide) (by decide) (by decide)
  · exact colours 3 5 (by decide) (by decide) (by decide) (by decide)
  · exact colours 5 5 (by decide) (by decide) (by decide) (by decide)

end BattleMap
