import BattleMap.Proofs.Naming
import BattleMap.Proofs.UndefinedTexts
import BattleMap.Scene.Compile
import BattleMap.Session.Options

namespace BattleMap

/-!
# Sizes of a cell

The size of a cell is checked twice, where a map is projected and where it is read
from the command line.  Both checks turn away what is zero or below.  A size that
passes them is positive if it has a place among the numbers at all, and an undefined
one has none: it is not zero, not below zero, and not positive either.

The projection names the size that it turns away.  A whole number that is too long to be
written is turned away as well, but for its length.
-/

namespace Number

/-- The number is above zero. -/
def IsPositive : Number -> Prop
  | .whole n => 0 < n
  | .fraction x => 0 < x

/-- The number stands for no value. -/
def IsUndefined : Number -> Prop
  | .whole _ => False
  | .fraction x => x.isNaN = true

theorem isPositive_iff_order {a : Number} : a.IsPositive ↔ a.order (.whole 0) = some .gt := by
  cases a with
  | whole n => exact Int.compare_eq_gt.symm.trans (Option.some_inj.symm)
  | fraction x =>
      rw [order_fraction_zero]
      exact pos_iff_side

theorem isUndefined_iff_order {a : Number} : a.IsUndefined ↔ a.order (.whole 0) = none := by
  cases a with
  | whole n => exact ⟨False.elim, nofun⟩
  | fraction x =>
      rw [order_fraction_zero]
      exact isNaN_iff_side

/-- What is not zero or below is above zero or has no place at all. -/
theorem atMostZero_eq_false_iff {a : Number} :
    a.atMostZero = false ↔ a.IsPositive ∨ a.IsUndefined := by
  rw [isPositive_iff_order, isUndefined_iff_order]
  unfold atMostZero less same
  rcases a.order (.whole 0) with _ | _ | _ | _ <;> decide

theorem IsUndefined.not_isPositive {a : Number} (undefined : a.IsUndefined) : ¬ a.IsPositive := by
  rw [isPositive_iff_order, isUndefined_iff_order.mp undefined]
  exact nofun

end Number

/-! ## The check of the projection -/

namespace Scene

/-- A size in writing, also one that is not given. -/
def sizeText : Option Number -> Except Fault String
  | none => .ok "None"
  | some a => a.exactText

/-- The complaint about a size that is missing or not positive. -/
def sizeRefusal (name : String) : Fault :=
  .outOfRange ("cell size " ++ name) "must be a positive number of pixels" none none

/-- The size is given and above zero. -/
def IsPositiveSize (size : Option Number) : Prop :=
  Exists fun a => size = some a ∧ a.IsPositive

/-- The size is given, but stands for no value. -/
def IsUndefinedSize (size : Option Number) : Prop :=
  Exists fun a => size = some a ∧ a.IsUndefined

/-- The size is not a whole number that is too long to be written. -/
def IsWritableSize (size : Option Number) : Prop :=
  forall a, size = some a -> a.IsWritable

theorem writtenIf_sizeText (size : Option Number) :
    WrittenIf (IsWritableSize size) (sizeText size) := by
  cases size with
  | none => exact .ok nofun "None"
  | some a =>
      apply a.writtenIf_exactText.congr
      exact ⟨fun writable _ same => Option.some_inj.mp same ▸ writable, fun each => each a rfl⟩

theorem checkCellSize_some (a : Number) :
    checkCellSize (some a) =
      if a.atMostZero then a.exactText >>= fun name => .error (sizeRefusal name) else .ok a :=
  rfl

theorem checkCellSize_of_isUndefined {a : Number} (undefined : a.IsUndefined) :
    checkCellSize (some a) = .ok a := by
  rw [checkCellSize_some, Number.atMostZero_eq_false_iff.mpr (.inr undefined)]
  rfl

/-- A size that passes is the one that was given, and is not zero or below. -/
theorem isPositive_or_isUndefined_of_checkCellSize {size : Option Number} {a : Number}
    (passed : checkCellSize size = .ok a) : size = some a ∧ (a.IsPositive ∨ a.IsUndefined) := by
  cases size with
  | none => cases passed
  | some b =>
      rw [checkCellSize_some] at passed
      split at passed
      · exact absurd passed Outcome.bind_error_ne_ok
      · rename_i notLow
        cases passed
        exact ⟨rfl, Number.atMostZero_eq_false_iff.mp (Bool.eq_false_iff.mpr notLow)⟩

/-- Any other size is turned away by its name. -/
theorem checkCellSize_eq_refusal {size : Option Number} (notPositive : ¬ IsPositiveSize size)
    (notUndefined : ¬ IsUndefinedSize size) :
    checkCellSize size = sizeText size >>= fun name => .error (sizeRefusal name) := by
  cases size with
  | none => rfl
  | some a =>
      rw [checkCellSize_some]
      split
      · rfl
      · rename_i notLow
        rcases Number.atMostZero_eq_false_iff.mp (Bool.eq_false_iff.mpr notLow) with
          positive | undefined
        · exact absurd ⟨a, rfl, positive⟩ notPositive
        · exact absurd ⟨a, rfl, undefined⟩ notUndefined

section

variable {α : Type} [Coordinate α]

/-- The size of a scene is the one that was asked for, and has passed its check. -/
theorem checkCellSize_of_project {grid : GridSize α} {loops : List (Loop Number)}
    {lines : List (SideLine α)} {circles : List (Circle α)} {squares : List (CellSquare α)}
    {size : Option Number} {fraction : Number} {scene : Scene α}
    (projected : project grid loops lines circles squares size fraction = .ok scene) :
    checkCellSize size = .ok scene.cellSize := by
  rcases Outcome.bind_eq_ok.mp projected with ⟨a, checked, scaling⟩
  rcases Outcome.bind_eq_ok.mp scaling with ⟨_, _, drawing⟩
  rcases Outcome.bind_eq_ok.mp drawing with ⟨_, _, drawing⟩
  rcases Outcome.bind_eq_ok.mp drawing with ⟨_, _, drawing⟩
  rcases Outcome.bind_eq_ok.mp drawing with ⟨_, _, done⟩
  cases done
  exact checked

end

/-- The projection turns the size away by its name unless it is positive, whatever else it
is given. -/
def RefusesUnlessPositive (size : Option Number) : Prop :=
  ¬ IsPositiveSize size -> Exists fun name => sizeText size = .ok name ∧
    forall {α : Type} [Coordinate α] (grid : GridSize α) (loops : List (Loop Number))
      (lines : List (SideLine α)) (circles : List (Circle α)) (squares : List (CellSquare α))
      (fraction : Number),
      project grid loops lines circles squares size fraction = .error (sizeRefusal name)

/-- A map without anything in it is projected at an undefined size. -/
theorem exists_project_of_isUndefined {a : Number} (undefined : a.IsUndefined)
    (grid : GridSize Int) (fraction : Number) :
    project grid [] [] [] [] (some a) fraction = .ok ⟨a, grid, [], [], [], []⟩ := by
  unfold project
  rw [checkCellSize_of_isUndefined undefined]
  rfl

theorem IsUndefinedSize.not_isPositiveSize {size : Option Number}
    (undefined : IsUndefinedSize size) : ¬ IsPositiveSize size := by
  rcases undefined with ⟨a, rfl, undefined⟩
  rintro ⟨b, same, positive⟩
  cases same
  exact undefined.not_isPositive positive

theorem refusesUnlessPositive_iff {size : Option Number} :
    RefusesUnlessPositive size ↔
      ¬ IsUndefinedSize size ∧ (IsPositiveSize size ∨ IsWritableSize size) := by
  constructor
  · intro refuses
    by_cases positive : IsPositiveSize size
    · exact ⟨fun undefined => undefined.not_isPositiveSize positive, .inl positive⟩
    · rcases refuses positive with ⟨name, named, refused⟩
      refine ⟨?_, .inr ((writtenIf_sizeText size).exists_eq_ok_iff.mp ⟨name, named⟩)⟩
      rintro ⟨a, rfl, undefined⟩
      have built := exists_project_of_isUndefined undefined ⟨1, 1⟩ defaultSquareFraction
      cases built.symm.trans (refused ⟨1, 1⟩ [] [] [] [] defaultSquareFraction)
  · rintro ⟨notUndefined, either⟩ notPositive
    rcases (writtenIf_sizeText size).exists_eq_ok (either.resolve_left notPositive) with
      ⟨name, named⟩
    refine ⟨name, named, fun grid loops lines circles squares fraction => ?_⟩
    unfold project
    rw [checkCellSize_eq_refusal notPositive notUndefined, named]
    rfl

/-- A size that is too long to be written has a place among the numbers. -/
theorem isWritableSize_of_isUndefinedSize {size : Option Number}
    (undefined : IsUndefinedSize size) : IsWritableSize size := by
  rcases undefined with ⟨a, rfl, undefined⟩
  rintro b same
  cases same
  cases a with
  | whole n => cases undefined
  | fraction x => trivial

theorem project_eq_tooManyDigits {α : Type} [Coordinate α] {size : Option Number}
    (notPositive : ¬ IsPositiveSize size) (long : ¬ IsWritableSize size) (grid : GridSize α)
    (loops : List (Loop Number)) (lines : List (SideLine α)) (circles : List (Circle α))
    (squares : List (CellSquare α)) (fraction : Number) :
    project grid loops lines circles squares size fraction = .error .tooManyDigits := by
  unfold project
  rw [checkCellSize_eq_refusal notPositive fun undefined =>
    long (isWritableSize_of_isUndefinedSize undefined), (writtenIf_sizeText size).eq_error long]
  rfl

end Scene

/-! ## The check of the command line -/

namespace Options

/-- Nothing that is not positive is taken from the text. -/
def TakesPositiveOnly (text : List Char) : Prop :=
  forall x, readDimension text = .ok x -> 0 < x

theorem readDimension_of_read? {text : List Char} {x : Float}
    (read : Decimal.FreeForm.read? text = some x) :
    readDimension text = if x ≤ 0 then
      .error (Flag.dimension.misuse ("dimension must be positive: " ++ Text.quoted text))
      else .ok x := by
  unfold readDimension
  rw [read]

/-- What is taken is a number of the text that is not zero or below. -/
theorem read?_of_readDimension {text : List Char} {x : Float}
    (taken : readDimension text = .ok x) :
    Decimal.FreeForm.read? text = some x ∧ ¬ x ≤ 0 := by
  cases read : Decimal.FreeForm.read? text with
  | none =>
      unfold readDimension at taken
      rw [read] at taken
      cases taken
  | some y =>
      rw [readDimension_of_read? read] at taken
      by_cases low : y ≤ 0
      · rw [if_pos low] at taken
        cases taken
      · rw [if_neg low] at taken
        cases taken
        exact ⟨rfl, low⟩

theorem takesPositiveOnly_iff {text : List Char} :
    TakesPositiveOnly text ↔ ¬ Decimal.FreeForm.SaysUndefined text := by
  rw [← Decimal.FreeForm.isNaN_read?_iff]
  constructor
  · rintro takes ⟨x, read, undefined⟩
    have noSide := Number.isNaN_iff_side.mp undefined
    have taken : readDimension text = .ok x := by
      rw [readDimension_of_read? read, if_neg (by rw [Number.le_zero_iff_side, noSide]; exact nofun)]
    have positive := takes x taken
    rw [Number.pos_iff_side, noSide] at positive
    cases positive
  · intro sensible x taken
    rcases read?_of_readDimension taken with ⟨read, notLow⟩
    rw [Number.le_zero_iff_side] at notLow
    have hasSide : Number.side x ≠ none := fun noSide =>
      sensible ⟨x, read, Number.isNaN_iff_side.mpr noSide⟩
    rw [Number.pos_iff_side]
    rcases found : Number.side x with _ | _ | _ | _
    · exact absurd found hasSide
    · exact absurd (.inl found) notLow
    · exact absurd (.inr found) notLow
    · rfl

end Options

/-! ## Both checks -/

/-- Both checks let nothing pass but what is positive, except for an undefined size, which
passes the one and the other, in a text only as the word for it.  So a scene has a positive
or an undefined size.  What is turned away is named, unless it is too long to be written. -/
theorem Scene.cellSize_exact {α : Type} [Coordinate α] (size : Option Number) (text : List Char)
    (grid : GridSize α) (loops : List (Loop Number)) (lines : List (SideLine α))
    (circles : List (Circle α)) (squares : List (CellSquare α)) (fraction : Number)
    (scene : Scene α) :
    (RefusesUnlessPositive size ↔
      ¬ IsUndefinedSize size ∧ (IsPositiveSize size ∨ IsWritableSize size)) ∧
      (¬ IsPositiveSize size -> ¬ IsWritableSize size ->
        project grid loops lines circles squares size fraction = .error .tooManyDigits) ∧
      (Options.TakesPositiveOnly text ↔ ¬ Decimal.FreeForm.SaysUndefined text) ∧
      (project grid loops lines circles squares size fraction = .ok scene ->
        size = some scene.cellSize ∧
          (scene.cellSize.IsPositive ∨ scene.cellSize.IsUndefined)) :=
  ⟨refusesUnlessPositive_iff,
    fun notPositive long =>
      project_eq_tooManyDigits notPositive long grid loops lines circles squares fraction,
    Options.takesPositiveOnly_iff, fun projected =>
      isPositive_or_isUndefined_of_checkCellSize (checkCellSize_of_project projected)⟩

/-- The word for an undefined number is taken as the size of a cell, and the projection
does not turn it away. -/
theorem Scene.not_refusesUnlessPositive_undefined :
    ¬ RefusesUnlessPositive (some (.fraction (0 / 0))) ∧
      ¬ Options.TakesPositiveOnly ['n', 'a', 'n'] := by
  have undefined : (0 / 0 : Float).isNaN = true := by decide
  have spelled : Decimal.FreeForm.SaysUndefined ['n', 'a', 'n'] :=
    ⟨[], ['n', 'a', 'n'], [], rfl, rfl, nofun⟩
  exact ⟨fun refuses => (refusesUnlessPositive_iff.mp refuses).1 ⟨_, rfl, undefined⟩,
    fun takes => Options.takesPositiveOnly_iff.mp takes spelled⟩

end BattleMap
