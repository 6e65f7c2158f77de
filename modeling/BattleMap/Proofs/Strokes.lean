import BattleMap.Painting.Pixels
import BattleMap.Proofs.Compilation
import BattleMap.Proofs.Nesting

namespace BattleMap

/-!
# Strokes inside a cell

All lines of a picture run along the borders of cells.  A pixel that is on none
of these borders is touched by no frame of the grid, by no line and by no side
of a polygon, so that the insides of the polygons alone colour it.  A polygon
fills the pixels with an odd winding number.  The loops of an outline wind around
a cell once or not at all, so that for them an odd winding number is one that is
not zero.
-/

theorem PixelBox.contains_iff {box : PixelBox} {x y : Int} : box.contains x y = true ↔
    (box.left ≤ x ∧ x ≤ box.right) ∧ box.top ≤ y ∧ y ≤ box.bottom := by
  simp only [contains, Bool.and_eq_true, decide_eq_true_eq, and_assoc]

theorem PixelBox.onBorder_iff {box : PixelBox} {x y : Int} : box.onBorder x y = true ↔
    box.contains x y = true ∧ (x = box.left ∨ x = box.right ∨ y = box.top ∨ y = box.bottom) := by
  simp only [onBorder, Bool.and_eq_true, Bool.or_eq_true, decide_eq_true_eq, or_assoc]

/-- A pixel on no border of a cell, with cells of the given size. -/
structure IsInterior (scale x y : Int) : Prop where
  column : ¬ scale ∣ x
  row : ¬ scale ∣ y

namespace IsInterior

variable {scale x y : Int}

/-- A straight line along borders of cells misses the pixel. -/
theorem not_contains_between (interior : IsInterior scale x y) {a b : Vertex}
    (straight : a.x = b.x ∨ a.y = b.y) :
    (PixelBox.between (a.map (· * scale)) (b.map (· * scale))).contains x y = false := by
  rw [Bool.eq_false_iff]
  intro inBox
  have bounds := PixelBox.contains_iff.mp inBox
  dsimp only [PixelBox.between, Point.map] at bounds
  rcases straight with same | same
  · rw [same, Int.min_self, Int.max_self] at bounds
    have place : x = b.x * scale := by omega
    exact interior.column ⟨b.x, place.trans (Int.mul_comm _ _)⟩
  · rw [same, Int.min_self, Int.max_self] at bounds
    have place : y = b.y * scale := by omega
    exact interior.row ⟨b.y, place.trans (Int.mul_comm _ _)⟩

/-- A box with its corners at corners of cells has the pixel nowhere on its border. -/
theorem not_onBorder (interior : IsInterior scale x y) (left top right bottom : Int) :
    PixelBox.onBorder ⟨left * scale, top * scale, right * scale, bottom * scale⟩ x y = false := by
  rw [Bool.eq_false_iff]
  intro onBorder
  rcases (PixelBox.onBorder_iff.mp onBorder).2 with same | same | same | same
  · exact interior.column ⟨left, same.trans (Int.mul_comm _ _)⟩
  · exact interior.column ⟨right, same.trans (Int.mul_comm _ _)⟩
  · exact interior.row ⟨top, same.trans (Int.mul_comm _ _)⟩
  · exact interior.row ⟨bottom, same.trans (Int.mul_comm _ _)⟩

end IsInterior

namespace PixelStroke

/-- A stroke that leaves the inside of all cells as it is. -/
def KeepsInteriors (scale : Int) (stroke : PixelStroke) : Prop :=
  forall x y, IsInterior scale x y -> stroke.colourAt? x y = none

/-- The inside of all cells is left as it is by what some strokes become. -/
def LeaveInteriors (scale : Int) (strokes : List Stroke) : Prop :=
  Exists fun drawn => strokes.mapM ofStroke = .ok drawn ∧
    forall stroke, stroke ∈ drawn -> stroke.KeepsInteriors scale

/-! ## The grid and the lines -/

theorem exists_gridFrame (scale : Int) (i j : Nat) :
    Exists fun stroke => Painting.gridFrame (.whole scale) i j = .ok stroke ∧
      Exists fun drawn => ofStroke stroke = .ok drawn ∧ drawn.KeepsInteriors scale := by
  refine ⟨_, rfl, _, rfl, ?_⟩
  intro x y interior
  unfold colourAt?
  dsimp only
  rw [interior.not_onBorder]
  rfl

theorem exists_gridFrames {scene : Scene} {scale : Int} (cellSize : scene.cellSize = .whole scale) :
    Exists fun frames => Painting.gridFrames scene = .ok frames ∧ LeaveInteriors scale frames := by
  have row : forall j : Nat, Exists fun frames =>
      ((List.range scene.grid.width.toNat).mapM fun i => Painting.gridFrame scene.cellSize i j) =
          .ok frames ∧
        forall frame, frame ∈ frames ->
          Exists fun drawn => ofStroke frame = .ok drawn ∧ drawn.KeepsInteriors scale := by
    intro j
    rw [cellSize]
    exact Outcome.exists_mapM_eq_ok fun i _ => exists_gridFrame scale i j
  rcases Outcome.exists_mapM_eq_ok fun j (_ : j ∈ List.range scene.grid.height.toNat) => row j with
    ⟨rows, made, keep⟩
  refine ⟨rows.flatten, Outcome.bind_eq_ok.mpr ⟨rows, made, rfl⟩, ?_⟩
  apply Outcome.exists_mapM_eq_ok
  intro frame member
  rcases List.mem_flatten.mp member with ⟨frames, listed, member⟩
  exact keep frames listed frame member

/-- A line in pixels runs straight along borders of cells. -/
theorem exists_ends_of_projectLine {scale : Int} {line : SideLine} {segment : Segment}
    (projected : Scene.projectLine (.whole scale) line = .ok segment) :
    Exists fun a : Vertex => Exists fun b : Vertex => (a.x = b.x ∨ a.y = b.y) ∧
      segment = ⟨(a.map (· * scale)).map Number.whole, (b.map (· * scale)).map Number.whole⟩ := by
  rcases line with ⟨side, x, y, length⟩
  cases side with
  | top =>
      cases projected
      exact ⟨⟨x, y⟩, ⟨x + length, y⟩, Or.inr rfl, rfl⟩
  | bottom =>
      cases projected
      exact ⟨⟨x, y + 1⟩, ⟨x + length, y + 1⟩, Or.inr rfl, rfl⟩
  | left =>
      cases projected
      exact ⟨⟨x, y⟩, ⟨x, y + length⟩, Or.inl rfl, rfl⟩
  | right =>
      cases projected
      exact ⟨⟨x + 1, y⟩, ⟨x + 1, y + length⟩, Or.inl rfl, rfl⟩

theorem leaveInteriors_lines {lines : List SideLine} {segments : List Segment} {scale : Int}
    (projected : lines.mapM (Scene.projectLine (.whole scale)) = .ok segments) :
    LeaveInteriors scale (segments.map Painting.lineStroke) := by
  apply Outcome.exists_mapM_eq_ok
  intro stroke member
  rcases List.mem_map.mp member with ⟨segment, segmentMember, rfl⟩
  rcases Outcome.exists_of_mem_mapM projected segmentMember with ⟨line, _, made⟩
  rcases exists_ends_of_projectLine made with ⟨a, b, straight, rfl⟩
  refine ⟨.line (a.map (· * scale)) (b.map (· * scale)) .ink, rfl, ?_⟩
  intro x y interior
  unfold colourAt?
  dsimp only
  rw [interior.not_contains_between straight]
  rfl

/-! ## Polygons -/

/-- Whether a side counts for the parity is the parity of its crossing. -/
theorem crossing_emod_two (x y : Int) (side : Vertex × Vertex) :
    crossing (x, y) side.1 side.2 % 2 = if isRightOf side x y then 1 else 0 := by
  rcases side with ⟨⟨u, v⟩, ⟨w, z⟩⟩
  simp only [crossing_mk, isRightOf, Bool.and_eq_true, decide_eq_true_eq]
  split_ifs <;> omega

/-- A polygon is filled where its winding number is odd. -/
theorem inside_eq (loop : Loop Int) (x y : Int) :
    inside loop x y = decide (loop.winding (x, y) % 2 = 1) := by
  have parity : forall sides : List (Vertex × Vertex),
      (sides.map fun side => crossing (x, y) side.1 side.2).sum % 2 =
        ((sides.countP fun side => isRightOf side x y) : Int) % 2 := by
    intro sides
    induction sides with
    | nil => rfl
    | cons side rest later =>
        have first := crossing_emod_two x y side
        rw [List.map_cons, List.sum_cons, List.countP_cons]
        split_ifs at first ⊢ <;> omega
  unfold inside Loop.winding
  rw [parity]
  exact decide_eq_decide.mpr (by omega)

end PixelStroke

/-- The polygon of a loop in pixels colours the inside of the cells that the loop
winds around. -/
theorem Traced.colourAt?_polygon {mask : Mask} {chains : List Chain} {chain : Chain}
    (traced : Traced mask chains) (listed : chain ∈ chains) {scale x y : Int} (positive : 0 < scale)
    (interior : IsInterior scale x y) (inner border : Colour) :
    (PixelStroke.polygon (chain.toLoop.magnified scale) inner border).colourAt? x y =
      if Chain.winding chain (x / scale, y / scale) = 0 then none else some inner := by
  have noSide : PixelStroke.onSide (chain.toLoop.magnified scale) x y = false := by
    unfold PixelStroke.onSide Loop.magnified
    rw [Loop.sides_map, List.any_map, List.any_eq_false]
    intro side member
    have missed := interior.not_contains_between (traced.straight_of_mem_sides listed member)
    exact Bool.eq_false_iff.mp missed
  rcases traced.exists_turn listed with ⟨turn, unit, values⟩
  have value := values (x / scale, y / scale)
  unfold PixelStroke.colourAt?
  dsimp only
  rw [noSide, PixelStroke.inside_eq, Loop.winding_magnified positive, traced.winding_toLoop listed]
  by_cases outside : Chain.winding chain (x / scale, y / scale) = 0
  · rw [outside]
    rfl
  · have odd : Chain.winding chain (x / scale, y / scale) % 2 = 1 := by omega
    rw [odd, if_neg outside]
    rfl

end BattleMap
