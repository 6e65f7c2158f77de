import Mathlib.Data.Set.Card
import Mathlib.Data.Set.Finite.Lemmas
import BattleMap.Proofs.Boundary

namespace BattleMap
namespace Regions

/-!
# Classes of filled cells

Two filled cells belong to one class if a path of filled cells joins them, each
adjacent to the next.  The count of a mask is the number of its classes.

The heart of the matter is flooding.  While a front of unfilled cells spreads,
the filled cells that no path joins to the front stay filled, and all others are
unfilled in the end.  What remains after flooding from a cell are all classes but
one.  So along the count the classes that have been met and those that are left
are as many as there were at the start, and at its end none are left.
-/

/-- One step of a path: to an adjacent cell that is filled. -/
def Step (adjacent : Cell -> List Cell) (mask : Mask) (a b : Cell) : Prop :=
  b ∈ adjacent a ∧ mask.fills b = true

/-- A path of filled cells leads from one cell to another. -/
def Joined (adjacent : Cell -> List Cell) (mask : Mask) : Cell -> Cell -> Prop :=
  Relation.ReflTransGen (Step adjacent mask)

/-- The cells to which a path leads from a given one. -/
def classOf (adjacent : Cell -> List Cell) (mask : Mask) (cell : Cell) : Set Cell :=
  {other | Joined adjacent mask cell other}

/-- The classes of the filled cells of a mask. -/
def classes (adjacent : Cell -> List Cell) (mask : Mask) : Set (Set Cell) :=
  {cells | Exists fun cell => mask.fills cell = true ∧ cells = classOf adjacent mask cell}

variable {adjacent : Cell -> List Cell} {mask rest : Mask} {a b cell : Cell}

/-! ## Unfilling cells -/

theorem fills_clear {x y : Nat} :
    (mask.clear x y).fills cell = true ↔
      mask.fills cell = true ∧ cell ≠ ((x : Int), (y : Int)) := by
  rcases cell with ⟨u, v⟩
  simp only [Mask.fills_eq_true_iff]
  by_cases inside : u.toNat < mask.width ∧ v.toNat < mask.height
  · unfold Mask.clear
    rw [Mask.filled_update mask x y _ inside.1 inside.2]
    simp only [ne_eq, Prod.mk.injEq]
    constructor
    · rintro ⟨right, below, isFilled⟩
      split_ifs at isFilled with same
      exact ⟨⟨right, below, isFilled⟩, by omega⟩
    · rintro ⟨⟨right, below, isFilled⟩, different⟩
      refine ⟨right, below, ?_⟩
      rw [if_neg (by omega)]
      exact isFilled
  · have outside : (mask.clear x y).filled u.toNat v.toNat = false := by
      apply Mask.filled_eq_false_of_not_lt
      unfold Mask.clear
      rw [Mask.width_update, Mask.height_update]
      exact inside
    rw [outside, Mask.filled_eq_false_of_not_lt inside]
    simp

theorem fills_without {cells : List Cell}
    (nonneg : forall cell, cell ∈ cells -> 0 ≤ cell.1 ∧ 0 ≤ cell.2) :
    (without mask cells).fills cell = true ↔ mask.fills cell = true ∧ cell ∉ cells := by
  induction cells generalizing mask with
  | nil => simp [without]
  | cons first others later =>
      have bounds := nonneg first List.mem_cons_self
      have place : ((first.1.toNat : Int), (first.2.toNat : Int)) = first := by
        rw [Int.toNat_of_nonneg bounds.1, Int.toNat_of_nonneg bounds.2]
      have step : without mask (first :: others) =
          without (mask.clear first.1.toNat first.2.toNat) others := rfl
      rw [step, later fun cell member => nonneg cell (List.mem_cons_of_mem _ member), fills_clear,
        place, List.mem_cons, not_or, and_assoc]

theorem mem_present {cells : List Cell} :
    cell ∈ present mask cells ↔ cell ∈ cells ∧ mask.fills cell = true :=
  List.mem_filter

theorem nonneg_of_mem_present {cells : List Cell} (member : cell ∈ present mask cells) :
    0 ≤ cell.1 ∧ 0 ≤ cell.2 := by
  have bounds := Mask.bounds_of_fills (mem_present.mp member).2
  exact ⟨bounds.1, bounds.2.2.1⟩

/-! ## Paths -/

theorem Joined.mono (fewer : forall cell, rest.fills cell = true -> mask.fills cell = true)
    (joined : Joined adjacent rest a b) : Joined adjacent mask a b := by
  induction joined with
  | refl => exact Relation.ReflTransGen.refl
  | tail _ step onward => exact Relation.ReflTransGen.tail onward ⟨step.1, fewer _ step.2⟩

/-- If some cells are unfilled, a path breaks off behind the last of them. -/
theorem Joined.cut {cells : List Cell}
    (remains : forall cell, rest.fills cell = true ↔ mask.fills cell = true ∧ cell ∉ cells)
    (joined : Joined adjacent mask a b) :
    Joined adjacent rest a b ∨ Exists fun cell => cell ∈ cells ∧ Joined adjacent rest cell b := by
  induction joined using Relation.ReflTransGen.head_induction_on with
  | refl => exact Or.inl Relation.ReflTransGen.refl
  | @head first second step _ later =>
      rcases later with whole | broken
      · by_cases cleared : second ∈ cells
        · exact Or.inr ⟨second, cleared, whole⟩
        · have still := (remains second).mpr ⟨step.2, cleared⟩
          exact Or.inl (Relation.ReflTransGen.head ⟨step.1, still⟩ whole)
      · exact Or.inr broken

theorem Joined.fills (joined : Joined adjacent mask a b) (isFilled : mask.fills a = true) :
    mask.fills b = true := by
  cases joined with
  | refl => exact isFilled
  | tail _ step => exact step.2

/-- Between filled cells a path can be walked back. -/
theorem Joined.symm (symmetric : forall a b : Cell, b ∈ adjacent a -> a ∈ adjacent b)
    (joined : Joined adjacent mask a b) (isFilled : mask.fills a = true) :
    Joined adjacent mask b a := by
  induction joined with
  | refl => exact Relation.ReflTransGen.refl
  | tail before step back =>
      exact Relation.ReflTransGen.head ⟨symmetric _ _ step.1, Joined.fills before isFilled⟩ back

/-! ## Flooding -/

/-- From an unfilled cell whose filled neighbours have been cleared no path leads on. -/
private theorem not_joined_of_cleared (unfilled : mask.fills a = false)
    (remains : forall cell, rest.fills cell = true ↔
      mask.fills cell = true ∧ cell ∉ present mask (adjacent a))
    (kept : rest.fills b = true) : ¬ Joined adjacent rest a b := by
  intro path
  rcases Relation.ReflTransGen.cases_head path with here | ⟨second, step, _⟩
  · rw [← here, remains, unfilled] at kept
    cases kept.1
  · have filled := (remains second).mp step.2
    exact filled.2 (mem_present.mpr ⟨step.1, filled.1⟩)

/-- Spreading a front unfills exactly the cells that a path joins to the front. -/
theorem fills_spread (front : List Cell) (mask : Mask)
    (unfilled : forall cell, cell ∈ front -> mask.fills cell = false) (cell : Cell) :
    (spread adjacent front mask).fills cell = true ↔
      mask.fills cell = true ∧ forall source, source ∈ front -> ¬ Joined adjacent mask source cell := by
  induction front, mask using spread.induct adjacent with
  | case1 mask =>
      unfold spread
      simp
  | case2 first front mask joined later =>
      have remains : forall cell, (without mask joined).fills cell = true ↔
          mask.fills cell = true ∧ cell ∉ joined :=
        fun cell => fills_without fun cell member => nonneg_of_mem_present member
      have unfilledNext : forall cell, cell ∈ joined ++ front ->
          (without mask joined).fills cell = false := by
        intro cell member
        apply Bool.eq_false_iff.mpr
        intro isFilled
        rcases List.mem_append.mp member with reached | waiting
        · exact ((remains cell).mp isFilled).2 reached
        · have free := unfilled cell (List.mem_cons_of_mem _ waiting)
          rw [((remains cell).mp isFilled).1] at free
          cases free
      have reached : forall cell, cell ∈ joined -> Joined adjacent mask first cell := by
        intro cell member
        have found := mem_present.mp member
        exact Relation.ReflTransGen.single ⟨found.1, found.2⟩
      unfold spread
      rw [later unfilledNext, remains]
      constructor
      · rintro ⟨⟨isFilled, kept⟩, apart⟩
        refine ⟨isFilled, ?_⟩
        intro source member path
        rcases Joined.cut remains path with whole | ⟨last, cleared, broken⟩
        · rcases List.mem_cons.mp member with same | waiting
          · rw [same] at whole
            have cleared := unfilled first List.mem_cons_self
            exact not_joined_of_cleared cleared remains ((remains cell).mpr ⟨isFilled, kept⟩) whole
          · exact apart source (List.mem_append_right _ waiting) whole
        · exact apart last (List.mem_append_left _ cleared) broken
      · rintro ⟨isFilled, apart⟩
        have fewer : forall cell, (without mask joined).fills cell = true -> mask.fills cell = true :=
          fun cell kept => ((remains cell).mp kept).1
        refine ⟨⟨isFilled, ?_⟩, ?_⟩
        · intro member
          exact apart first List.mem_cons_self (reached cell member)
        · intro source member path
          rcases List.mem_append.mp member with cleared | waiting
          · exact apart first List.mem_cons_self
              (Relation.ReflTransGen.trans (reached source cleared) (path.mono fewer))
          · exact apart source (List.mem_cons_of_mem _ waiting) (path.mono fewer)

/-- What is left without the class of a cell are the cells that it does not reach. -/
theorem fills_withoutClass (nonneg : 0 ≤ a.1 ∧ 0 ≤ a.2) :
    (withoutClass adjacent mask a).fills cell = true ↔
      mask.fills cell = true ∧ ¬ Joined adjacent mask a cell := by
  have bounds : forall cell, cell ∈ [a] -> 0 ≤ cell.1 ∧ 0 ≤ cell.2 := by
    intro cell member
    rw [List.mem_singleton.mp member]
    exact nonneg
  have remains : forall cell, (without mask [a]).fills cell = true ↔
      mask.fills cell = true ∧ cell ∉ [a] :=
    fun cell => fills_without bounds
  have unfilled : forall cell, cell ∈ [a] -> (without mask [a]).fills cell = false := by
    intro cell member
    apply Bool.eq_false_iff.mpr
    intro isFilled
    exact ((remains cell).mp isFilled).2 member
  unfold withoutClass
  rw [fills_spread _ _ unfilled, remains]
  constructor
  · rintro ⟨⟨isFilled, _⟩, apart⟩
    refine ⟨isFilled, ?_⟩
    intro path
    rcases Joined.cut remains path with whole | ⟨last, cleared, broken⟩
    · exact apart a List.mem_cons_self whole
    · exact apart last cleared broken
  · rintro ⟨isFilled, apart⟩
    refine ⟨⟨isFilled, ?_⟩, ?_⟩
    · intro member
      rw [List.mem_singleton.mp member] at apart
      exact apart Relation.ReflTransGen.refl
    · intro source member path
      rw [List.mem_singleton.mp member] at path
      exact apart (path.mono fun cell kept => ((remains cell).mp kept).1)

/-! ## Counting -/

theorem mem_classOf_self (adjacent : Cell -> List Cell) (mask : Mask) (cell : Cell) :
    cell ∈ classOf adjacent mask cell :=
  Relation.ReflTransGen.refl

theorem classOf_eq (symmetric : forall a b : Cell, b ∈ adjacent a -> a ∈ adjacent b)
    (isFilled : mask.fills a = true) (joined : Joined adjacent mask a b) :
    classOf adjacent mask b = classOf adjacent mask a := by
  ext cell
  constructor
  · intro path
    exact Relation.ReflTransGen.trans joined path
  · intro path
    exact Relation.ReflTransGen.trans (joined.symm symmetric isFilled) path

theorem finite_fills (mask : Mask) : {cell | mask.fills cell = true}.Finite := by
  apply (mask.filledCells.map fun cell => ((cell.1 : Int), (cell.2 : Int))).finite_toSet.subset
  intro cell isFilled
  have whole := Mask.fills_eq_true_iff.mp isFilled
  apply List.mem_map.mpr
  refine ⟨(cell.1.toNat, cell.2.toNat), Mask.mem_filledCells.mpr whole.2.2, ?_⟩
  exact Prod.ext (Int.toNat_of_nonneg whole.1) (Int.toNat_of_nonneg whole.2.1)

theorem finite_classes (adjacent : Cell -> List Cell) (mask : Mask) :
    (classes adjacent mask).Finite := by
  apply ((finite_fills mask).image (classOf adjacent mask)).subset
  rintro _ ⟨cell, isFilled, rfl⟩
  exact Set.mem_image_of_mem _ isFilled

/-- Every class has a topmost cell. -/
theorem exists_topmost (adjacent : Cell -> List Cell) (isFilled : mask.fills a = true) :
    Exists fun top => Joined adjacent mask a top ∧
      forall other, Joined adjacent mask a other -> top.2 ≤ other.2 := by
  have finite : (classOf adjacent mask a).Finite :=
    (finite_fills mask).subset fun cell joined => Joined.fills joined isFilled
  exact Set.exists_min_image _ Prod.snd finite ⟨a, Relation.ReflTransGen.refl⟩

/-- A cell that remains keeps its class. -/
theorem classOf_withoutClass (symmetric : forall a b : Cell, b ∈ adjacent a -> a ∈ adjacent b)
    (isFilled : mask.fills a = true) (kept : (withoutClass adjacent mask a).fills b = true) :
    classOf adjacent (withoutClass adjacent mask a) b = classOf adjacent mask b := by
  have bounds := Mask.bounds_of_fills isFilled
  have remains : forall cell, (withoutClass adjacent mask a).fills cell = true ↔
      mask.fills cell = true ∧ ¬ Joined adjacent mask a cell :=
    fun cell => fills_withoutClass ⟨bounds.1, bounds.2.2.1⟩
  have apart := (remains b).mp kept
  ext cell
  constructor
  · intro path
    exact Joined.mono (fun cell kept => ((remains cell).mp kept).1) path
  · intro path
    induction path with
    | refl => exact Relation.ReflTransGen.refl
    | @tail middle last before step onward =>
        -- A path that leaves the rest would lead from the class back to the cell.
        have whole : Joined adjacent mask b last := Relation.ReflTransGen.tail before step
        refine Relation.ReflTransGen.tail onward ⟨step.1, (remains last).mpr ⟨step.2, ?_⟩⟩
        intro reached
        exact apart.2 (Relation.ReflTransGen.trans reached (whole.symm symmetric apart.1))

/-- Taking out a class leaves all the others. -/
theorem classes_withoutClass (symmetric : forall a b : Cell, b ∈ adjacent a -> a ∈ adjacent b)
    (isFilled : mask.fills a = true) :
    classes adjacent (withoutClass adjacent mask a) =
      classes adjacent mask \ {classOf adjacent mask a} := by
  have bounds := Mask.bounds_of_fills isFilled
  ext cells
  constructor
  · rintro ⟨cell, kept, rfl⟩
    have apart := (fills_withoutClass ⟨bounds.1, bounds.2.2.1⟩).mp kept
    rw [classOf_withoutClass symmetric isFilled kept]
    refine ⟨⟨cell, apart.1, rfl⟩, ?_⟩
    intro same
    have reached : cell ∈ classOf adjacent mask a := same ▸ mem_classOf_self adjacent mask cell
    exact apart.2 reached
  · rintro ⟨⟨cell, cellFilled, rfl⟩, different⟩
    have kept : (withoutClass adjacent mask a).fills cell = true := by
      apply (fills_withoutClass ⟨bounds.1, bounds.2.2.1⟩).mpr
      refine ⟨cellFilled, ?_⟩
      intro joined
      exact different (classOf_eq symmetric isFilled joined)
    exact ⟨cell, kept, (classOf_withoutClass symmetric isFilled kept).symm⟩

theorem ncard_classes_withoutClass (symmetric : forall a b : Cell, b ∈ adjacent a -> a ∈ adjacent b)
    (isFilled : mask.fills a = true) :
    (classes adjacent (withoutClass adjacent mask a)).ncard + 1 = (classes adjacent mask).ncard := by
  rw [classes_withoutClass symmetric isFilled]
  exact Set.ncard_sdiff_singleton_add_one ⟨a, isFilled, rfl⟩ (finite_classes adjacent mask)

/-- A visit keeps the number of classes that are counted or left, it fills no
cell, and it leaves the visited cell unfilled. -/
theorem Tally.visit_spec (symmetric : forall a b : Cell, b ∈ adjacent a -> a ∈ adjacent b)
    (tally : Tally) (cell : Cell) :
    (tally.visit adjacent cell).classes +
          (Regions.classes adjacent (tally.visit adjacent cell).left).ncard =
        tally.classes + (Regions.classes adjacent tally.left).ncard ∧
      (forall other, (tally.visit adjacent cell).left.fills other = true ->
        tally.left.fills other = true) ∧
      (tally.visit adjacent cell).left.fills cell = false := by
  rcases tally with ⟨left, counted⟩
  cases isFilled : left.fills cell with
  | false =>
      have same : Tally.visit adjacent ⟨left, counted⟩ cell = ⟨left, counted⟩ := by
        change (if left.fills cell = true then _ else _) = _
        rw [isFilled, if_neg Bool.false_ne_true]
      rw [same]
      exact ⟨rfl, fun _ kept => kept, isFilled⟩
  | true =>
      have opened : Tally.visit adjacent ⟨left, counted⟩ cell =
          ⟨withoutClass adjacent left cell, counted + 1⟩ := by
        change (if left.fills cell = true then _ else _) = _
        rw [isFilled, if_pos rfl]
      have bounds := Mask.bounds_of_fills isFilled
      have fewer := ncard_classes_withoutClass symmetric isFilled
      rw [opened]
      refine ⟨by dsimp only; omega, ?_, ?_⟩
      · intro other kept
        exact ((fills_withoutClass ⟨bounds.1, bounds.2.2.1⟩).mp kept).1
      · apply Bool.eq_false_iff.mpr
        intro kept
        exact ((fills_withoutClass ⟨bounds.1, bounds.2.2.1⟩).mp kept).2 Relation.ReflTransGen.refl

/-- The same of all visits together. -/
theorem Tally.foldl_visit_spec (symmetric : forall a b : Cell, b ∈ adjacent a -> a ∈ adjacent b)
    (cells : List (Nat × Nat)) (tally : Tally) :
    let final := cells.foldl
      (fun tally cell => tally.visit adjacent ((cell.1 : Int), (cell.2 : Int))) tally
    final.classes + (Regions.classes adjacent final.left).ncard =
        tally.classes + (Regions.classes adjacent tally.left).ncard ∧
      (forall other, final.left.fills other = true -> tally.left.fills other = true) ∧
      forall cell, cell ∈ cells -> final.left.fills ((cell.1 : Int), (cell.2 : Int)) = false := by
  induction cells generalizing tally with
  | nil => exact ⟨rfl, fun _ kept => kept, fun _ member => by cases member⟩
  | cons first others later =>
      intro final
      have here := tally.visit_spec symmetric ((first.1 : Int), (first.2 : Int))
      have onward := later (tally.visit adjacent ((first.1 : Int), (first.2 : Int)))
      refine ⟨onward.1.trans here.1, fun other kept => here.2.1 other (onward.2.1 other kept), ?_⟩
      intro cell member
      rcases List.mem_cons.mp member with same | member
      · rw [same]
        apply Bool.eq_false_iff.mpr
        intro kept
        have free := here.2.2
        rw [onward.2.1 _ kept] at free
        cases free
      · exact onward.2.2 cell member

/-- The count of a mask is the number of its classes. -/
theorem count_eq_ncard (symmetric : forall a b : Cell, b ∈ adjacent a -> a ∈ adjacent b)
    (mask : Mask) : count adjacent mask = (classes adjacent mask).ncard := by
  have spec := Tally.foldl_visit_spec symmetric mask.filledCells ⟨mask, 0⟩
  unfold count
  generalize mask.filledCells.foldl
    (fun tally cell => tally.visit adjacent ((cell.1 : Int), (cell.2 : Int))) (⟨mask, 0⟩ : Tally) =
    final at spec ⊢
  rcases spec with ⟨kept, fewer, visited⟩
  have none : classes adjacent final.left = ∅ := by
    apply Set.eq_empty_of_forall_notMem
    rintro _ ⟨cell, isFilled, _⟩
    have whole := Mask.fills_eq_true_iff.mp (fewer cell isFilled)
    have free := visited (cell.1.toNat, cell.2.toNat) (Mask.mem_filledCells.mpr whole.2.2)
    dsimp only at free
    rw [Int.toNat_of_nonneg whole.1, Int.toNat_of_nonneg whole.2.1] at free
    rw [free] at isFilled
    cases isFilled
  rw [none, Set.ncard_empty, Nat.add_zero] at kept
  exact kept.trans (Nat.zero_add _)

theorem sideNeighbours_symm {a b : Cell} (member : b ∈ sideNeighbours a) : a ∈ sideNeighbours b := by
  rw [mem_sideNeighbours] at member ⊢
  simp only [shareSide, decide_eq_true_eq] at member ⊢
  omega

theorem neighbours_symm {a b : Cell} (member : b ∈ neighbours a) : a ∈ neighbours b := by
  rw [mem_neighbours] at member ⊢
  simp only [touch, Bool.and_eq_true, decide_eq_true_eq, ne_eq] at member ⊢
  exact ⟨⟨fun same => member.1.1 same.symm, by omega⟩, by omega⟩

end Regions
end BattleMap
