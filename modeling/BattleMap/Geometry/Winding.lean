import BattleMap.Decimal.Power
import BattleMap.Geometry.Axis
import BattleMap.Geometry.Loop
import BattleMap.Mask
import BattleMap.Memory

namespace BattleMap

/-!
# Winding numbers

The winding number of a cell counts the upright sides of loops that lie to the
right of the cell in its row: a side that runs downward counts one, a side that
runs upward minus one.  A cell belongs to the picture of the loops if its
winding number is not zero.

Winding numbers are counted in four bytes each.  A counter that is moved beyond its
range goes on at the other end of it, and what it shows in the end depends on the sum
alone: the counters of a sum may leave their range and come back (`wrapped_add_wrapped`).
-/

/-- The bytes that a winding number takes. -/
def windingBytes : Nat := 4

/-- The least number that is too large for a counter. -/
def windingLimit : Nat := Decimal.twoTo (8 * windingBytes - 1)

/-- What a counter shows when it should stand at a number. -/
def wrapped (n : Int) : Int :=
  n.bmod (Decimal.twoTo (8 * windingBytes))

def IsCountable (n : Int) : Prop :=
  -(windingLimit : Int) ≤ n ∧ n < windingLimit

instance (n : Int) : Decidable (IsCountable n) :=
  inferInstanceAs (Decidable (_ ∧ _))

theorem wrapped_of_isCountable {n : Int} (countable : IsCountable n) : wrapped n = n := by
  have range : (Decimal.twoTo (8 * windingBytes) : Int) = windingLimit * 2 := rfl
  rcases countable with ⟨low, high⟩
  exact Int.bmod_eq_of_le_mul_two (by omega) (by omega)

theorem isCountable_wrapped (n : Int) : IsCountable (wrapped n) := by
  have positive : 0 < Decimal.twoTo (8 * windingBytes) := Decimal.twoTo_pos _
  have half : (Decimal.twoTo (8 * windingBytes) : Int) / 2 = windingLimit := rfl
  have upper : ((Decimal.twoTo (8 * windingBytes) : Int) + 1) / 2 = windingLimit := rfl
  exact ⟨half ▸ Int.le_bmod positive, upper ▸ Int.bmod_lt positive⟩

/-- A counter shows exactly the numbers of its range. -/
theorem wrapped_eq_self_iff {n : Int} : wrapped n = n ↔ IsCountable n :=
  ⟨fun same => same ▸ isCountable_wrapped n, wrapped_of_isCountable⟩

/-- Whatever a counter went through before, it ends where the sum belongs. -/
theorem wrapped_add_wrapped (a b : Int) : wrapped (a + wrapped b) = wrapped (a + b) :=
  Int.add_bmod_bmod

/-- An upright side of a loop: its column line, the rows it passes, and whether
it runs downward. -/
structure Upright where
  x : Int
  top : Int
  bottom : Int
  downward : Bool
deriving DecidableEq, Repr

namespace Upright

/-- The upright between two corners.  Sides that are level, slanted or of no
length have none.  Corners off the lattice are cut to whole numbers. -/
def ofSide? (side : Point Number × Point Number) : Except Fault (Option Upright) :=
  let (a, b) := side
  if a.x.same b.x && !a.y.same b.y then do
    let x ← a.x.truncate
    let top ← (a.y.least b.y).truncate
    let bottom ← (a.y.greatest b.y).truncate
    return some ⟨x, top, bottom, a.y.less b.y⟩
  else .ok none

/-- Whether the upright passes a row of a grid. -/
def passesRow (upright : Upright) (height : Nat) (y : Nat) : Bool :=
  (Axis.span height upright.top upright.bottom).contains y

/-- Whether the upright counts for a cell of a grid. -/
def countsFor (upright : Upright) (width height : Nat) (x y : Nat) : Bool :=
  upright.passesRow height y && (Axis.span width 0 upright.x).contains x

/-- What the upright adds to the winding numbers for which it counts. -/
def sign (upright : Upright) : Int :=
  if upright.downward then 1 else -1

end Upright

def Loop.uprights (loop : Loop Number) : Except Fault (List Upright) := do
  return (← loop.sides.mapM Upright.ofSide?).filterMap id

/-- What an upright adds to the winding number of a cell of a grid. -/
def Upright.countAt (upright : Upright) (width height : Nat) (x y : Nat) : Int :=
  if upright.countsFor width height x y then upright.sign else 0

/-- The winding number of a cell of a grid: every upright moves the counter. -/
def windingNumber (uprights : List Upright) (width height : Nat) (x y : Nat) : Int :=
  uprights.foldr (fun upright count => wrapped (upright.countAt width height x y + count)) 0

/-- What all uprights together add to the winding number of a cell. -/
def windingCount (uprights : List Upright) (width height : Nat) (x y : Nat) : Int :=
  (uprights.map fun upright => upright.countAt width height x y).foldr (· + ·) 0

theorem windingNumber_eq_wrapped (uprights : List Upright) (width height x y : Nat) :
    windingNumber uprights width height x y = wrapped (windingCount uprights width height x y) := by
  induction uprights with
  | nil => rfl
  | cons upright rest same =>
      change wrapped (_ + windingNumber rest width height x y) = wrapped (_ + windingCount rest _ _ _ _)
      rw [same, wrapped_add_wrapped]

/-! ## All winding numbers at once

Every upright is entered into the rows that it passes.  In a row each upright
makes a step at its column, and the winding numbers are what counters show of the
sums of the steps from a place on.
-/

/-- For every row of a grid the uprights that pass it. -/
def passingRows (uprights : List Upright) (height : Nat) : Array (List Upright) :=
  uprights.foldr (fun upright rows =>
      (Axis.span height upright.top upright.bottom).places.foldl
        (fun rows y => rows.modify y (upright :: ·)) rows)
    (Array.replicate height [])

/-- The steps of a row: what the given uprights add at each place from zero up to
the width. -/
def rowSteps (passing : List Upright) (width : Nat) : List Int :=
  (passing.foldr (fun upright steps =>
    steps.modify (Axis.place width upright.x) (· + upright.sign))
      (Array.replicate (width + 1) 0)).toList

def total (steps : List Int) : Int :=
  steps.foldr (· + ·) 0

def totalsFrom (steps : List Int) : List Int :=
  steps.foldr (fun step totals => (step + totals.headD 0) :: totals) []

/-- The winding numbers of a row that is passed by the given uprights. -/
def rowNumbers (passing : List Upright) (width : Nat) : List Int :=
  (totalsFrom ((rowSteps passing width).drop 1)).map wrapped

/-- The winding numbers of a grid, row by row. -/
def windingRows (uprights : List Upright) (width height : Nat) : List (List Int) :=
  (passingRows uprights height).toList.map fun passing => rowNumbers passing width

theorem getElem?_foldl_modify {ys : List Nat} (distinct : ys.Nodup) (f : α -> α) (rows : Array α)
    (j : Nat) : (ys.foldl (fun rows y => rows.modify y f) rows)[j]? =
      if j ∈ ys then rows[j]?.map f else rows[j]? := by
  induction ys generalizing rows with
  | nil => rfl
  | cons y rest same =>
      obtain ⟨fresh, distinct⟩ := List.nodup_cons.mp distinct
      rw [List.foldl_cons, same distinct, Array.getElem?_modify]
      by_cases here : y = j
      · subst here
        rw [if_neg fresh, if_pos rfl, if_pos List.mem_cons_self]
      · simp only [if_neg here, List.mem_cons, Ne.symm here, false_or]

/-- A row gets exactly the uprights that pass it, in order. -/
theorem getElem?_passingRows (uprights : List Upright) (height : Nat) {y : Nat} (row : y < height) :
    (passingRows uprights height)[y]? =
      some (uprights.filter fun upright => upright.passesRow height y) := by
  induction uprights with
  | nil =>
      rw [passingRows, List.foldr_nil, Array.getElem?_replicate, if_pos row]
      rfl
  | cons upright rest same =>
      have step : passingRows (upright :: rest) height =
          (Axis.span height upright.top upright.bottom).places.foldl
            (fun rows y => rows.modify y (upright :: ·)) (passingRows rest height) := rfl
      rw [step, getElem?_foldl_modify (Axis.Span.nodup_places _), same]
      cases passes : upright.passesRow height y with
      | true => rw [if_pos (Axis.Span.mem_places.mpr passes), List.filter_cons, if_pos passes,
          Option.map_some]
      | false =>
          have misses : ¬ y ∈ (Axis.span height upright.top upright.bottom).places := fun member => by
            rw [Upright.passesRow, Axis.Span.mem_places.mp member] at passes
            cases passes
          rw [if_neg misses, List.filter_cons, if_neg (by rw [passes]; exact Bool.false_ne_true)]

theorem size_foldl_modify (ys : List Nat) (f : α -> α) (rows : Array α) :
    (ys.foldl (fun rows y => rows.modify y f) rows).size = rows.size := by
  induction ys generalizing rows with
  | nil => rfl
  | cons y rest same => rw [List.foldl_cons, same, Array.size_modify]

theorem size_passingRows (uprights : List Upright) (height : Nat) :
    (passingRows uprights height).size = height := by
  induction uprights with
  | nil => exact Array.size_replicate
  | cons upright rest same =>
      rw [passingRows, List.foldr_cons, size_foldl_modify]
      exact same

/-- The sums from each place on, place by place. -/
theorem totalsFrom_eq_map (steps : List Int) :
    totalsFrom steps = (List.range steps.length).map fun x => total (steps.drop x) := by
  induction steps with
  | nil => rfl
  | cons step rest same =>
      have unfolded : totalsFrom (step :: rest) =
          (step + (totalsFrom rest).headD 0) :: totalsFrom rest := rfl
      have first : (totalsFrom rest).headD 0 = total rest := by
        rw [same]
        cases rest with
        | nil => rfl
        | cons next others => rw [List.length_cons, List.range_succ_eq_map]; rfl
      rw [unfolded, first, same, List.length_cons, List.range_succ_eq_map, List.map_cons,
        List.map_map]
      rfl

theorem total_drop_modify (steps : List Int) (place x : Nat) (change : Int) :
    total ((steps.modify place (· + change)).drop x) =
      total (steps.drop x) + if x ≤ place ∧ place < steps.length then change else 0 := by
  induction steps generalizing place x with
  | nil =>
      rw [List.modify_nil, if_neg (by simp), Int.add_zero]
  | cons step rest same =>
      cases place with
      | zero =>
          cases x with
          | zero =>
              rw [if_pos ⟨Nat.le_refl 0, Nat.succ_pos _⟩]
              change step + change + total rest = step + total rest + change
              omega
          | succ x =>
              rw [if_neg (by omega), Int.add_zero]
              rfl
      | succ place =>
          have tail := same place
          cases x with
          | zero =>
              have inner := tail 0
              rw [List.drop_zero, List.drop_zero] at inner
              change step + total (rest.modify place (· + change)) = step + total rest + _
              rw [inner, List.length_cons]
              split <;> split <;> omega
          | succ x =>
              have inner := tail x
              change total ((rest.modify place (· + change)).drop x) = total (rest.drop x) + _
              rw [inner, List.length_cons]
              split <;> split <;> omega

theorem length_rowSteps (passing : List Upright) (width : Nat) :
    (rowSteps passing width).length = width + 1 := by
  unfold rowSteps
  rw [Array.length_toList]
  induction passing with
  | nil => exact Array.size_replicate
  | cons upright rest same => rw [List.foldr_cons, Array.size_modify, same]

theorem total_replicate_zero (count : Nat) : total (List.replicate count 0) = 0 := by
  induction count with
  | zero => rfl
  | succ count same =>
      change 0 + total (List.replicate count 0) = 0
      rw [same]
      rfl

/-- From a place on the steps sum up to the signs of the uprights beyond it. -/
theorem total_drop_rowSteps (passing : List Upright) (width x : Nat) :
    total ((rowSteps passing width).drop (x + 1)) = total (passing.map fun upright =>
      if (Axis.span width 0 upright.x).contains x then upright.sign else 0) := by
  induction passing with
  | nil =>
      unfold rowSteps
      rw [List.foldr_nil, Array.toList_replicate, List.drop_replicate]
      exact total_replicate_zero _
  | cons upright rest same =>
      have step : rowSteps (upright :: rest) width =
          (rowSteps rest width).modify (Axis.place width upright.x) (· + upright.sign) := by
        unfold rowSteps
        rw [List.foldr_cons, Array.toList_modify]
      have within : Axis.place width upright.x < (rowSteps rest width).length := by
        rw [length_rowSteps]
        exact Nat.lt_succ_of_le (Nat.min_le_left _ _)
      have reaches : (Axis.span width 0 upright.x).contains x =
          decide (x + 1 ≤ Axis.place width upright.x) := by
        simp only [Axis.Span.contains, Axis.span, Axis.place_of_nonneg (Int.le_refl 0),
          Int.toNat_zero, Nat.min_zero, Nat.zero_le, decide_true, Bool.true_and]
        rfl
      rw [step, total_drop_modify, same, List.map_cons, reaches]
      change _ = _ + total _
      simp only [within, and_true, decide_eq_true_eq]
      exact Int.add_comm _ _

/-- The winding numbers of a row, cell by cell. -/
theorem rowNumbers_filter_passesRow (uprights : List Upright) (width height y : Nat) :
    rowNumbers (uprights.filter fun upright => upright.passesRow height y) width =
      (List.range width).map fun x => windingNumber uprights width height x y := by
  unfold rowNumbers
  rw [totalsFrom_eq_map, List.length_drop, length_rowSteps, Nat.add_sub_cancel, List.map_map]
  refine List.map_congr_left fun x _ => ?_
  rw [Function.comp_apply, List.drop_drop, Nat.add_comm, total_drop_rowSteps,
    windingNumber_eq_wrapped]
  apply congrArg wrapped
  change _ = total _
  induction uprights with
  | nil => rfl
  | cons upright rest same =>
      cases passes : upright.passesRow height y with
      | true =>
          rw [List.filter_cons, if_pos passes, List.map_cons, List.map_cons]
          change _ + total _ = _ + total _
          rw [same]
          simp only [Upright.countAt, Upright.countsFor, passes, Bool.true_and]
      | false =>
          rw [List.filter_cons, if_neg (by rw [passes]; exact Bool.false_ne_true), same,
            List.map_cons]
          change _ = _ + total _
          simp only [Upright.countAt, Upright.countsFor, passes, Bool.false_and,
            Bool.false_eq_true, if_false, Int.zero_add]

/-- The winding numbers of a grid, cell by cell. -/
theorem windingRows_eq_map (uprights : List Upright) (width height : Nat) :
    windingRows uprights width height = (List.range height).map fun y =>
      (List.range width).map fun x => windingNumber uprights width height x y := by
  unfold windingRows
  refine List.ext_getElem? fun y => ?_
  rw [List.getElem?_map, List.getElem?_map, Array.getElem?_toList]
  by_cases row : y < height
  · rw [getElem?_passingRows uprights height row, List.getElem?_range row, Option.map_some,
      Option.map_some, rowNumbers_filter_passesRow]
  · rw [Array.getElem?_eq_none (by rw [size_passingRows]; omega),
      List.getElem?_eq_none (by rw [List.length_range]; omega)]
    rfl

namespace Mask

/-- The cells whose winding number is not zero. -/
def ofUprights (uprights : List Upright) (width height : Nat) : Mask :=
  let rows := ((windingRows uprights width height).map List.toArray).toArray
  .ofFn width height fun x y => ((rows[y]?.bind fun row => row[x]?).getD 0) ≠ 0

theorem filled_ofUprights (uprights : List Upright) {width height x y : Nat} (column : x < width)
    (row : y < height) :
    (ofUprights uprights width height).filled x y =
      decide (windingNumber uprights width height x y ≠ 0) := by
  unfold ofUprights
  rw [filled_ofFn, decide_eq_true column, decide_eq_true row, Bool.true_and, Bool.true_and,
    windingRows_eq_map]
  simp only [List.getElem?_toArray, List.getElem?_map, List.getElem?_range row,
    List.getElem?_range column, Option.map_some, Option.bind_some, Option.getD_some]

end Mask

def uprightsOf (loops : List (Loop Number)) : Except Fault (List Upright) := do
  return (← loops.mapM Loop.uprights).flatten

/-- The winding numbers of a grid around the given loops, row by row. -/
def windingGrid [Coordinate α] (loops : List (Loop Number)) (width height : α) :
    Except Fault (List (List Int)) := do
  let (width, height) ← Memory.checkGrid windingBytes width height
  return windingRows (← uprightsOf loops) width height

/-- The cells of a grid that belong to the picture of the given loops. -/
def Mask.ofLoops [Coordinate α] (loops : List (Loop Number)) (width height : α) :
    Except Fault Mask := do
  let (width, height) ← Memory.checkGrid windingBytes width height
  return ofUprights (← uprightsOf loops) width height

end BattleMap
