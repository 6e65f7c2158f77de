import BattleMap.Geometry.Axis
import BattleMap.Geometry.Lattice

namespace BattleMap

/-!
# Masks

A mask says of every cell of a grid whether it is filled.  It is made from a
function of column and row (`Mask.ofFn`) and read back by `Mask.filled`; the two
are inverse on the grid, and outside it nothing is filled.  Single cells and
areas can be changed, and `filled_update` and `filled_updateArea` say that
nothing else is changed with them.
-/

/-- The filled cells of a grid, stored row by row. -/
structure Mask where
  width : Nat
  height : Nat
  cells : Vector Bool (width * height)

namespace Mask

/-- The mask whose cell in column `x` and row `y` is filled if `fill x y`. -/
def ofFn (width height : Nat) (fill : Nat -> Nat -> Bool) : Mask where
  width := width
  height := height
  cells := Vector.ofFn fun i => fill (i.val % width) (i.val / width)

def filled (mask : Mask) (x y : Nat) : Bool :=
  x < mask.width && y < mask.height && mask.cells[y * mask.width + x]?.getD false

/-- Whether a cell given by whole numbers is filled. -/
def covers (mask : Mask) (x y : Int) : Bool :=
  0 ≤ x && 0 ≤ y && mask.filled x.toNat y.toNat

/-- The rows come one after the other, so a cell of the grid has its own place. -/
theorem cell_index_lt {width height x y : Nat} (column : x < width) (row : y < height) :
    y * width + x < width * height := by
  calc
    y * width + x < y * width + width := by omega
    _ = (y + 1) * width := by rw [Nat.add_mul, Nat.one_mul]
    _ ≤ height * width := Nat.mul_le_mul_right width row
    _ = width * height := Nat.mul_comm height width

/-- The mask with one cell changed; outside the grid there is nothing to change. -/
def update (mask : Mask) (x y : Nat) (change : Bool -> Bool) : Mask :=
  if inside : x < mask.width ∧ y < mask.height then
    have place := cell_index_lt inside.1 inside.2
    { mask with cells := mask.cells.set (y * mask.width + x) (change mask.cells[y * mask.width + x]) }
  else mask

def clear (mask : Mask) (x y : Nat) : Mask :=
  mask.update x y fun _ => false

/-- The mask with the given cells of a row changed. -/
def updateRow (mask : Mask) (columns : List Nat) (y : Nat) (change : Bool -> Bool) : Mask :=
  columns.foldl (fun mask x => mask.update x y change) mask

/-- The mask with the cells in the given columns and rows changed. -/
def updateArea (mask : Mask) (columns rows : Axis.Span) (change : Bool -> Bool) : Mask :=
  rows.places.foldl (fun mask y => mask.updateRow columns.places y change) mask

def blank (width height : Nat) : Mask where
  width := width
  height := height
  cells := Vector.replicate (width * height) false

def grid (mask : Mask) : List (Nat × Nat) :=
  (List.range mask.height).flatMap fun y => (List.range mask.width).map fun x => (x, y)

def filledCells (mask : Mask) : List (Nat × Nat) :=
  (List.range mask.height).flatMap fun y =>
    ((List.range mask.width).filter fun x => mask.filled x y).map fun x => (x, y)

def filledCount (mask : Mask) : Nat :=
  mask.filledCells.length

def rows (mask : Mask) : List (List Bool) :=
  (List.range mask.height).map fun y => (List.range mask.width).map fun x => mask.filled x y

@[simp] theorem width_ofFn (width height : Nat) (fill : Nat -> Nat -> Bool) :
    (ofFn width height fill).width = width := rfl

@[simp] theorem height_ofFn (width height : Nat) (fill : Nat -> Nat -> Bool) :
    (ofFn width height fill).height = height := rfl

theorem cell_index_mod {width x : Nat} (column : x < width) (y : Nat) :
    (y * width + x) % width = x := by
  rw [Nat.add_comm, Nat.add_mul_mod_self_right, Nat.mod_eq_of_lt column]

theorem cell_index_div {width x : Nat} (column : x < width) (y : Nat) :
    (y * width + x) / width = y := by
  rw [Nat.add_comm, Nat.add_mul_div_right _ _ (Nat.lt_of_le_of_lt (Nat.zero_le x) column),
    Nat.div_eq_of_lt column, Nat.zero_add]

/-- On its grid a mask is the function it was made from. -/
theorem filled_ofFn (width height : Nat) (fill : Nat -> Nat -> Bool) (x y : Nat) :
    (ofFn width height fill).filled x y = (decide (x < width) && decide (y < height) && fill x y) := by
  by_cases inside : x < width ∧ y < height
  · obtain ⟨column, row⟩ := inside
    have inRange := cell_index_lt column row
    have found : (Vector.ofFn fun i : Fin (width * height) => fill (i.val % width) (i.val / width))[
        y * width + x]? = some (fill x y) := by
      rw [Vector.getElem?_eq_getElem inRange, Vector.getElem_ofFn]
      simp only [cell_index_mod column, cell_index_div column]
    simp only [filled, width_ofFn, height_ofFn, column, row, decide_true, Bool.true_and]
    exact congrArg (Option.getD · false) found
  · rcases Decidable.not_and_iff_or_not.mp inside with column | row
    · simp [filled, column]
    · simp [filled, row]

/-- Nothing outside the grid is filled. -/
theorem filled_eq_false_of_not_lt {mask : Mask} {x y : Nat}
    (outside : ¬(x < mask.width ∧ y < mask.height)) : mask.filled x y = false := by
  rcases Decidable.not_and_iff_or_not.mp outside with column | row
  · simp [filled, column]
  · simp [filled, row]

@[simp] theorem filled_blank (width height x y : Nat) : (blank width height).filled x y = false := by
  unfold filled blank
  simp only [Vector.getElem?_replicate]
  split <;> simp

/-- The filled cells are those of the grid that are filled, in the same order. -/
theorem filledCells_eq_filter (mask : Mask) :
    mask.filledCells = mask.grid.filter fun cell => mask.filled cell.1 cell.2 := by
  unfold filledCells grid
  rw [List.filter_flatMap]
  simp only [List.filter_map, Function.comp_def]

@[simp] theorem width_update (mask : Mask) (x y : Nat) (change : Bool -> Bool) :
    (mask.update x y change).width = mask.width := by
  unfold update
  split <;> rfl

@[simp] theorem height_update (mask : Mask) (x y : Nat) (change : Bool -> Bool) :
    (mask.update x y change).height = mask.height := by
  unfold update
  split <;> rfl

/-- Exactly one cell is changed. -/
theorem filled_update (mask : Mask) (x y : Nat) (change : Bool -> Bool) {a b : Nat}
    (column : a < mask.width) (row : b < mask.height) :
    (mask.update x y change).filled a b =
      if a = x ∧ b = y then change (mask.filled a b) else mask.filled a b := by
  have there := cell_index_lt column row
  by_cases inside : x < mask.width ∧ y < mask.height
  · have place := cell_index_lt inside.1 inside.2
    have updated : mask.update x y change = ⟨mask.width, mask.height,
        mask.cells.set (y * mask.width + x) (change mask.cells[y * mask.width + x])⟩ :=
      dif_pos inside
    have samePlace : y * mask.width + x = b * mask.width + a ↔ a = x ∧ b = y := by
      constructor
      · intro same
        have columns := congrArg (· % mask.width) same
        have rows := congrArg (· / mask.width) same
        simp only [cell_index_mod inside.1, cell_index_mod column, cell_index_div inside.1,
          cell_index_div column] at columns rows
        exact ⟨columns.symm, rows.symm⟩
      · rintro ⟨rfl, rfl⟩
        rfl
    rw [updated]
    simp only [filled, column, row, decide_true, Bool.true_and, Vector.getElem?_set, samePlace]
    by_cases same : a = x ∧ b = y
    · obtain ⟨rfl, rfl⟩ := same
      simp [Vector.getElem?_eq_getElem there]
    · simp only [if_neg same]
  · have different : ¬(a = x ∧ b = y) := by
      rintro ⟨rfl, rfl⟩
      exact inside ⟨column, row⟩
    unfold update
    rw [dif_neg inside, if_neg different]

@[simp] theorem width_updateRow (mask : Mask) (columns : List Nat) (y : Nat)
    (change : Bool -> Bool) : (mask.updateRow columns y change).width = mask.width := by
  unfold updateRow
  induction columns generalizing mask with
  | nil => rfl
  | cons x rest same => rw [List.foldl_cons, same, width_update]

@[simp] theorem height_updateRow (mask : Mask) (columns : List Nat) (y : Nat)
    (change : Bool -> Bool) : (mask.updateRow columns y change).height = mask.height := by
  unfold updateRow
  induction columns generalizing mask with
  | nil => rfl
  | cons x rest same => rw [List.foldl_cons, same, height_update]

theorem filled_updateRow (mask : Mask) {columns : List Nat} (distinct : columns.Nodup) (y : Nat)
    (change : Bool -> Bool) {a b : Nat} (column : a < mask.width) (row : b < mask.height) :
    (mask.updateRow columns y change).filled a b =
      if a ∈ columns ∧ b = y then change (mask.filled a b) else mask.filled a b := by
  induction columns generalizing mask with
  | nil => simp [updateRow]
  | cons x rest same =>
      obtain ⟨fresh, distinct⟩ := List.nodup_cons.mp distinct
      have tail := same (mask.update x y change) distinct (by simpa using column) (by simpa using row)
      rw [filled_update mask x y change column row] at tail
      unfold updateRow at tail ⊢
      rw [List.foldl_cons, tail]
      by_cases here : a = x
      · subst here
        simp [fresh]
      · simp [here]

/-- Exactly the cells in the given columns and rows are changed, each of them once. -/
theorem filled_updateArea (mask : Mask) (columns rows : Axis.Span) (change : Bool -> Bool) {a b : Nat}
    (column : a < mask.width) (row : b < mask.height) :
    (mask.updateArea columns rows change).filled a b =
      if columns.contains a && rows.contains b then change (mask.filled a b)
      else mask.filled a b := by
  have general : forall (ys : List Nat) (mask : Mask), ys.Nodup -> a < mask.width ->
      b < mask.height -> (ys.foldl (fun mask y => mask.updateRow columns.places y change) mask).filled
        a b = if a ∈ columns.places ∧ b ∈ ys then change (mask.filled a b) else mask.filled a b := by
    intro ys
    induction ys with
    | nil => simp
    | cons y rest same =>
        intro mask distinct column row
        obtain ⟨fresh, distinct⟩ := List.nodup_cons.mp distinct
        rw [List.foldl_cons, same _ distinct (by simpa using column) (by simpa using row),
          filled_updateRow mask columns.nodup_places y change column row]
        by_cases here : b = y
        · subst here
          simp [fresh]
        · simp [here]
  unfold updateArea
  rw [general _ mask rows.nodup_places column row]
  simp only [Axis.Span.mem_places, Bool.and_eq_true]

/-- Clearing a filled cell leaves fewer filled places. -/
theorem count_cells_clear_lt {mask : Mask} {x y : Nat} (isFilled : mask.filled x y = true) :
    (mask.clear x y).cells.count true < mask.cells.count true := by
  by_cases inside : x < mask.width ∧ y < mask.height
  · have place := cell_index_lt inside.1 inside.2
    have held : mask.cells[y * mask.width + x] = true := by
      simpa [filled, inside.1, inside.2, Vector.getElem?_eq_getElem place] using isFilled
    have positive : 0 < mask.cells.count true :=
      Vector.count_pos_iff.mpr (held ▸ Vector.getElem_mem place)
    unfold clear update
    rw [dif_pos inside, Vector.count_set, held]
    change mask.cells.count true - 1 + 0 < mask.cells.count true
    omega
  · rw [filled_eq_false_of_not_lt inside] at isFilled
    exact absurd isFilled Bool.false_ne_true

/-- Clearing a cell never leaves more filled places. -/
theorem count_cells_clear_le (mask : Mask) (x y : Nat) :
    (mask.clear x y).cells.count true ≤ mask.cells.count true := by
  by_cases inside : x < mask.width ∧ y < mask.height
  · unfold clear update
    rw [dif_pos inside, Vector.count_set]
    exact Nat.sub_le _ _
  · have same : mask.clear x y = mask := dif_neg inside
    exact Nat.le_of_eq (by rw [same])

end Mask
end BattleMap
