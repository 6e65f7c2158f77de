import BattleMap.Scene.Compile
import BattleMap.Proofs.Acceptance
import BattleMap.Proofs.RoundTrip

namespace BattleMap

/-!
# One pass or several

A document is carried out in one pass over its statements, in which stamps change
the floor plan and all other statements are only checked.  The stamps by themselves
and the furnishings by themselves give the same floor plan, the same furnishings
and the same verdict.  The one pass is needed for a single thing: of several bad
statements it reports the first in the document, whatever its kind.

The reason is that no check looks at the floor plan.  So all checks can be thought
of as made before anything is changed, and how statements of different kinds are
interleaved matters only to which of them is reported.  The cells that a document
fills are then the ones that its stamps leave filled.
-/

namespace Placed

/-- The stamp that is placed, if it is one. -/
def stamp? (placed : Placed Statement) : Option (Placed Stamp) :=
  match placed.item with
  | .stamp item => some ⟨item, placed.line, placed.column⟩
  | _ => none

end Placed

namespace GridSize

variable (size : GridSize)

/-- The check that a statement has to pass on a grid, whatever stands before it. -/
def checkStatement (placed : Placed Statement) : Except Fault Unit :=
  match placed.item with
  | .stamp item =>
      Stamp.check size.width.toNat size.height.toNat ⟨item, placed.line, placed.column⟩
  | _ => size.checkFurnishing placed

end GridSize

/-- What a grid asks of a statement.  Nothing is asked of its position. -/
def Statement.FitsIn (size : GridSize) : Statement -> Prop
  | .stamp item => item.IsAcceptable size.width.toNat size.height.toNat
  | .line item => 0 < item.length ∧ Exists fun ends => item.ends = .ok ends ∧
      size.hasPoint ends.1 = true ∧ size.hasPoint ends.2 = true
  | .circle (.within x y) => size.hasCell x y = true
  | .circle (.around x y radius) => size.hasPoint (x, y) = true ∧ radius.atMostZero = false
  | .square item => size.hasCell item.x item.y = true

namespace GridSize

variable {size : GridSize}

theorem checkLine_eq_ok_iff {line : Placed SideLine} :
    size.checkLine line = .ok () ↔ Statement.FitsIn size (.line line.item) := by
  unfold checkLine
  rw [Coordinate.atMost_int, Coordinate.ofInt_int]
  change _ ↔ 0 < line.item.length ∧ Exists fun ends => line.item.ends = .ok ends ∧
    size.hasPoint ends.1 = true ∧ size.hasPoint ends.2 = true
  by_cases short : line.item.length ≤ 0
  · simp [short, Int.not_lt.mpr short]
  · dsimp only
    rw [if_neg (by simpa using short), Outcome.bind_eq_ok, and_iff_right (Int.not_le.mp short)]
    apply exists_congr
    intro ends
    apply and_congr_right'
    cases size.hasPoint ends.1 with
    | false => simp
    | true =>
        cases size.hasPoint ends.2 with
        | false => simp
        | true => exact iff_of_true rfl ⟨rfl, rfl⟩

theorem checkCircle_eq_ok_iff {circle : Placed Circle} :
    size.checkCircle circle = .ok () ↔ Statement.FitsIn size (.circle circle.item) := by
  rcases circle with ⟨⟨x, y⟩ | ⟨x, y, radius⟩, line, column⟩
  · change (if size.hasCell x y = true then _ else _) = _ ↔ size.hasCell x y = true
    by_cases inside : size.hasCell x y = true
    · exact iff_of_true (if_pos inside) inside
    · rw [if_neg inside]
      exact iff_of_false Placed.bind_reject_ne_ok inside
  · change (if (!size.hasPoint (x, y)) = true then _ else _) = _ ↔
      size.hasPoint (x, y) = true ∧ radius.atMostZero = false
    cases size.hasPoint (x, y) with
    | false => exact iff_of_false Placed.reject_ne_ok fun fits => Bool.false_ne_true fits.1
    | true =>
        cases radius.atMostZero with
        | false => exact iff_of_true rfl ⟨rfl, rfl⟩
        | true =>
            exact iff_of_false Placed.reject_ne_ok fun fits => Bool.false_ne_true fits.2.symm

theorem checkSquare_eq_ok_iff {square : Placed CellSquare} :
    size.checkSquare square = .ok () ↔ Statement.FitsIn size (.square square.item) := by
  change (if size.hasCell square.item.x square.item.y = true then _ else _) = _ ↔
    size.hasCell square.item.x square.item.y = true
  split <;> simp [*]

theorem checkStamp_eq_ok_iff {stamp : Placed Stamp} :
    Stamp.check size.width.toNat size.height.toNat stamp = .ok () ↔
      Statement.FitsIn size (.stamp stamp.item) := by
  rw [Stamp.check_eq]
  change _ ↔ stamp.item.IsAcceptable size.width.toNat size.height.toNat
  split
  · exact iff_of_true rfl ‹_›
  · exact iff_of_false Placed.reject_ne_ok ‹_›

/-- A statement passes its check exactly if it fits in the grid. -/
theorem checkStatement_eq_ok_iff {placed : Placed Statement} :
    size.checkStatement placed = .ok () ↔ placed.item.FitsIn size := by
  rcases placed with ⟨item | item | item | item, line, column⟩
  · exact checkStamp_eq_ok_iff
  · exact checkLine_eq_ok_iff
  · exact checkCircle_eq_ok_iff
  · exact checkSquare_eq_ok_iff

end GridSize

/-! ## The checks apart from the changes -/

/-- What an accepted statement makes of the floor plan. -/
def Mask.after (floor : Mask) (placed : Placed Statement) : Mask :=
  match placed.item with
  | .stamp item => floor.stamped item
  | _ => floor

namespace Mask

variable {size : GridSize} {floor : Mask}

theorem HasSize.after (sized : floor.HasSize size) (placed : Placed Statement) :
    (floor.after placed).HasSize size := by
  rcases placed with ⟨item | item | item | item, line, column⟩
  · exact sized.stamped item
  · exact sized
  · exact sized
  · exact sized

theorem HasSize.applyStamp_eq_bind (sized : floor.HasSize size) (stamp : Placed Stamp) :
    floor.applyStamp stamp = Stamp.check size.width.toNat size.height.toNat stamp >>= fun _ =>
      .ok (floor.stamped stamp.item) := by
  unfold applyStamp
  rw [sized.1, sized.2]
  rfl

theorem HasSize.carryOut_eq_bind (sized : floor.HasSize size) (placed : Placed Statement) :
    floor.carryOut size placed = size.checkStatement placed >>= fun _ => .ok (floor.after placed) := by
  rcases placed with ⟨item | item | item | item, line, column⟩
  · exact sized.applyStamp_eq_bind _
  · rfl
  · rfl
  · rfl

/-- The stamps of a document make of the floor plan what all its statements do. -/
theorem foldl_after (statements : List (Placed Statement)) :
    statements.foldl after floor =
      (statements.filterMap Placed.stamp?).foldl (fun floor stamp => floor.stamped stamp.item) floor := by
  induction statements generalizing floor with
  | nil => rfl
  | cons placed rest later =>
      rcases placed with ⟨item | item | item | item, line, column⟩
      · exact later
      · exact later
      · exact later
      · exact later

end Mask

namespace Document

variable (document : Document)

theorem stamps_eq_filterMap : document.stamps = document.statements.filterMap Placed.stamp? := by
  unfold stamps
  congr 1
  funext placed
  rcases placed with ⟨item | item | item | item, line, column⟩ <;> rfl

/-- The floor plan that the stamps of a document make of an empty one. -/
def floorFrom (empty : Mask) : Mask :=
  (document.stamps.map (·.item)).foldl Mask.stamped empty

theorem floorFrom_eq (empty : Mask) :
    document.floorFrom empty =
      document.stamps.foldl (fun floor stamp => floor.stamped stamp.item) empty :=
  List.foldl_map

theorem replay_eq :
    Mask.replay document.grid.item document.stamps =
      Mask.forGrid document.grid.item >>= fun empty =>
        document.stamps.forM
          (Stamp.check document.grid.item.width.toNat document.grid.item.height.toNat) >>= fun _ =>
            .ok (document.floorFrom empty) := by
  unfold Mask.replay
  simp only [floorFrom_eq]
  cases laidOut : Mask.forGrid document.grid.item with
  | error fault => rfl
  | ok empty =>
      exact Outcome.foldlM_eq_forM_bind (Mask.HasSize document.grid.item)
        (fun floor sized stamp => sized.applyStamp_eq_bind stamp)
        (fun floor sized stamp => sized.stamped stamp.item) (Mask.hasSize_of_forGrid laidOut)

/-- Carrying out a document is laying out its grid, making all checks, and only
then applying the stamps. -/
theorem survey_eq :
    document.survey =
      Mask.forGrid document.grid.item >>= fun empty =>
        document.statements.forM document.grid.item.checkStatement >>= fun _ =>
          .ok ⟨document.floorFrom empty, Furnishings.ofStatements document.statements⟩ := by
  unfold survey
  simp only [floorFrom_eq]
  cases laidOut : Mask.forGrid document.grid.item with
  | error fault => rfl
  | ok empty =>
      have carried : document.statements.foldlM (Mask.carryOut document.grid.item) empty =
          document.statements.forM document.grid.item.checkStatement >>= fun _ =>
            .ok (document.statements.foldl Mask.after empty) :=
        Outcome.foldlM_eq_forM_bind (Mask.HasSize document.grid.item)
          (fun floor sized placed => sized.carryOut_eq_bind placed)
          (fun floor sized placed => sized.after placed) (Mask.hasSize_of_forGrid laidOut)
      change document.statements.foldlM (Mask.carryOut document.grid.item) empty >>= _ = _
      rw [carried, Mask.foldl_after, ← stamps_eq_filterMap]
      change (_ >>= fun _ => _) >>= _ = document.statements.forM document.grid.item.checkStatement >>= _
      cases document.statements.forM document.grid.item.checkStatement <;> rfl

theorem survey_furnishings {document : Document} {survey : Survey}
    (surveyed : document.survey = .ok survey) :
    survey.furnishings = Furnishings.ofStatements document.statements := by
  rcases Outcome.bind_eq_ok.mp surveyed with ⟨_, _, carrying⟩
  rcases Outcome.bind_eq_ok.mp carrying with ⟨_, _, done⟩
  cases done
  rfl

/-- The floor plan of a document has the size of its grid and the cells that its
stamps leave filled. -/
theorem survey_spec {text : List Char} {document : Document} {survey : Survey}
    (result : read text = .ok document) (surveyed : document.survey = .ok survey) :
    (0 < document.grid.item.width ∧ 0 < document.grid.item.height) ∧
      survey.floor.width = document.grid.item.width.toNat ∧
      survey.floor.height = document.grid.item.height.toNat ∧
      forall x y, x < survey.floor.width -> y < survey.floor.height ->
        (survey.floor.filled x y = true ↔ document.Fills x y) := by
  rw [survey_eq] at surveyed
  rcases Outcome.bind_eq_ok.mp surveyed with ⟨empty, laidOut, checking⟩
  rcases Outcome.bind_eq_ok.mp checking with ⟨_, _, done⟩
  cases done
  rcases Mask.forGrid_spec laidOut with ⟨positive, rfl⟩
  have nonneg : forall stamp, stamp ∈ document.stamps.map (·.item) -> stamp.IsNonneg :=
    List.forall_mem_map.mpr fun placed member => isNonneg_of_mem_stamps result member
  have sameSize := Mask.size_foldl_stamped
    (.blank document.grid.item.width.toNat document.grid.item.height.toNat)
    (document.stamps.map (·.item))
  refine ⟨positive, sameSize.1, sameSize.2, ?_⟩
  intro x y left low
  unfold floorFrom at left low ⊢
  rw [sameSize.1] at left
  rw [sameSize.2] at low
  rw [Mask.filled_foldl_stamped _ nonneg left low, Mask.filled_blank, Stamp.foldl_changed_eq_true_iff]
  rfl

variable {document} {floor : Mask} {furnishings : Furnishings}

/-- All checks pass in one pass over the statements exactly if they pass in one over
the stamps and one over the furnishings. -/
theorem checks_eq_ok_iff :
    document.statements.forM document.grid.item.checkStatement = .ok () ↔
      document.stamps.forM
          (Stamp.check document.grid.item.width.toNat document.grid.item.height.toNat) = .ok () ∧
        document.statements.forM document.grid.item.checkFurnishing = .ok () := by
  rw [Outcome.forM_eq_ok_iff, Outcome.forM_eq_ok_iff, Outcome.forM_eq_ok_iff, stamps_eq_filterMap,
    List.forall_mem_filterMap, ← forall₂_and]
  apply forall₂_congr
  intro placed _
  rcases placed with ⟨item | item | item | item, line, column⟩ <;>
    simp [GridSize.checkStatement, GridSize.checkFurnishing, Placed.stamp?]

/-- The one pass succeeds exactly if the stamps by themselves and the furnishings by
themselves do, and then it yields what these two yield. -/
theorem survey_eq_ok_iff :
    document.survey = .ok ⟨floor, furnishings⟩ ↔
      Mask.replay document.grid.item document.stamps = .ok floor ∧
        Furnishings.collect document.grid.item document.statements = .ok furnishings := by
  unfold Furnishings.collect
  rw [survey_eq, replay_eq]
  simp only [Outcome.bind_eq_ok]
  constructor
  · rintro ⟨empty, laidOut, _, passed, done⟩
    cases done
    rcases checks_eq_ok_iff.mp passed with ⟨stamped, furnished⟩
    exact ⟨⟨empty, laidOut, (), stamped, rfl⟩, (), furnished, rfl⟩
  · rintro ⟨⟨empty, laidOut, _, stamped, floorDone⟩, _, furnished, done⟩
    cases floorDone
    cases done
    exact ⟨empty, laidOut, (), checks_eq_ok_iff.mpr ⟨stamped, furnished⟩, rfl⟩

/-- A statement is the first of a document that its own check rejects, and this is
what the check says. -/
def FirstRejected (document : Document) (bad : Placed Statement) (fault : Fault) : Prop :=
  Exists fun before => Exists fun after => document.statements = before ++ bad :: after ∧
    (forall placed, placed ∈ before -> document.grid.item.checkStatement placed = .ok ()) ∧
    document.grid.item.checkStatement bad = .error fault

/-- A survey that succeeds is traced and projected. -/
theorem compile_of_survey (surveyed : document.survey = .ok ⟨floor, furnishings⟩) :
    Exists fun loops => floor.outline = .ok loops ∧ forall cellSize,
      document.compile cellSize = Scene.project document.grid.item (loops.map Loop.toNumbers)
        (furnishings.lines.map (·.item)) (furnishings.circles.map (·.item))
        (furnishings.squares.map (·.item)) cellSize Scene.defaultSquareFraction := by
  rcases floor.exists_traced with ⟨chains, traced, _⟩
  refine ⟨_, traced, ?_⟩
  intro cellSize
  unfold compile
  rw [surveyed]
  change (floor.outline >>= fun loops => Survey.scene _ _ loops _) = _
  rw [traced]
  rfl

theorem compile_of_survey_error {fault : Fault} (failed : document.survey = .error fault)
    (cellSize : Option Number) : document.compile cellSize = .error fault := by
  unfold compile
  rw [failed]
  rfl

/-- If the stamps by themselves or the furnishings by themselves fail on a grid that
could be laid out, the first rejected statement is to blame. -/
theorem exists_firstRejected {empty : Mask} (laidOut : Mask.forGrid document.grid.item = .ok empty)
    (fails : forall floor furnishings,
      ¬ (Mask.replay document.grid.item document.stamps = .ok floor ∧
        Furnishings.collect document.grid.item document.statements = .ok furnishings)) :
    Exists fun bad => Exists fun fault => document.FirstRejected bad fault ∧
      document.survey = .error fault := by
  have surveyed := document.survey_eq
  rw [laidOut] at surveyed
  cases checked : document.statements.forM document.grid.item.checkStatement with
  | ok done =>
      change _ = document.statements.forM document.grid.item.checkStatement >>= _ at surveyed
      rw [checked] at surveyed
      exact absurd (survey_eq_ok_iff.mp surveyed) (fails _ _)
  | error fault =>
      change _ = document.statements.forM document.grid.item.checkStatement >>= _ at surveyed
      rw [checked] at surveyed
      rcases Outcome.forM_eq_error_iff.mp checked with ⟨before, bad, after, split, passed, faulty⟩
      exact ⟨bad, fault, ⟨before, after, split, passed, faulty⟩, surveyed⟩

/-! ## Rearranged documents -/

/-- Two documents on the same grid have the same statements of each kind, in the same
order.  How the kinds are interleaved, and the positions, may differ. -/
structure Rearranges (document other : Document) : Prop where
  grid : other.grid.item = document.grid.item
  stamps : other.stamps.map (·.item) = document.stamps.map (·.item)
  lines : (other.statements.filterMap Placed.line?).map (·.item) =
    (document.statements.filterMap Placed.line?).map (·.item)
  circles : (other.statements.filterMap Placed.circle?).map (·.item) =
    (document.statements.filterMap Placed.circle?).map (·.item)
  squares : (other.statements.filterMap Placed.square?).map (·.item) =
    (document.statements.filterMap Placed.square?).map (·.item)

/-- A property of all statements is one of each kind. -/
theorem forall_statements_iff {property : Statement -> Prop} :
    (forall placed, placed ∈ document.statements -> property placed.item) ↔
      (forall item, item ∈ document.stamps.map (·.item) -> property (.stamp item)) ∧
      (forall item, item ∈ (document.statements.filterMap Placed.line?).map (·.item) ->
        property (.line item)) ∧
      (forall item, item ∈ (document.statements.filterMap Placed.circle?).map (·.item) ->
        property (.circle item)) ∧
      forall item, item ∈ (document.statements.filterMap Placed.square?).map (·.item) ->
        property (.square item) := by
  simp only [stamps_eq_filterMap, List.forall_mem_map, List.forall_mem_filterMap, ← forall₂_and]
  apply forall₂_congr
  intro placed _
  rcases placed with ⟨item | item | item | item, line, column⟩ <;>
    simp [Placed.stamp?, Placed.line?, Placed.circle?, Placed.square?]

theorem checks_eq_ok_iff_fitsIn :
    document.statements.forM document.grid.item.checkStatement = .ok () ↔
      forall placed, placed ∈ document.statements -> placed.item.FitsIn document.grid.item := by
  rw [Outcome.forM_eq_ok_iff]
  exact forall₂_congr fun _ _ => GridSize.checkStatement_eq_ok_iff

theorem Rearranges.symm {other : Document} (rearranged : document.Rearranges other) :
    other.Rearranges document :=
  ⟨rearranged.grid.symm, rearranged.stamps.symm, rearranged.lines.symm, rearranged.circles.symm,
    rearranged.squares.symm⟩

/-- A rearranged document is surveyed like the original: its floor plan is the same. -/
theorem Rearranges.survey {other : Document} (rearranged : document.Rearranges other)
    (surveyed : document.survey = .ok ⟨floor, furnishings⟩) :
    other.survey = .ok ⟨floor, Furnishings.ofStatements other.statements⟩ := by
  rw [survey_eq] at surveyed ⊢
  rcases Outcome.bind_eq_ok.mp surveyed with ⟨empty, laidOut, checking⟩
  rcases Outcome.bind_eq_ok.mp checking with ⟨_, passed, done⟩
  cases done
  have fit := checks_eq_ok_iff_fitsIn.mp passed
  rw [forall_statements_iff, ← rearranged.stamps, ← rearranged.lines, ← rearranged.circles,
    ← rearranged.squares, ← rearranged.grid, ← forall_statements_iff] at fit
  unfold floorFrom
  refine Outcome.bind_eq_ok.mpr ⟨empty, by rw [rearranged.grid, laidOut], ?_⟩
  exact Outcome.bind_eq_ok.mpr ⟨(), checks_eq_ok_iff_fitsIn.mpr fit, by rw [rearranged.stamps]⟩

theorem Rearranges.compile {other : Document} (rearranged : document.Rearranges other)
    {cellSize : Option Number} {scene : Scene} (compiled : document.compile cellSize = .ok scene) :
    other.compile cellSize = .ok scene := by
  rcases Outcome.bind_eq_ok.mp compiled with ⟨⟨floor, furnishings⟩, surveyed, _⟩
  have otherSurveyed := rearranged.survey surveyed
  have arranged : furnishings = Furnishings.ofStatements document.statements :=
    survey_furnishings surveyed
  subst arranged
  rcases compile_of_survey surveyed with ⟨loops, traced, projected⟩
  rcases compile_of_survey otherSurveyed with ⟨otherLoops, otherTraced, otherProjected⟩
  have sameLoops : otherLoops = loops := Except.ok.inj (otherTraced.symm.trans traced)
  rw [otherProjected, sameLoops, rearranged.grid, ← compiled, projected]
  unfold Furnishings.ofStatements
  dsimp only
  rw [rearranged.lines, rearranged.circles, rearranged.squares]

/-! ## The stages of a compilation -/

/-- Compiling a document is the composition of its stages.  If the stamps can be
replayed and the furnishings be collected, what projecting the outline of the floor
plan together with the furnishings gives is the outcome, be it a scene or a fault.
If not, then for every size of a cell the outcome is what the check of the first
rejected statement says, or else the grid is too large to be laid out at all.  So
rearranging the statements of a document without changing the order within any kind
leads to the same scene. -/
theorem compile_stages {document : Document}
    (positive : 0 < document.grid.item.width ∧ 0 < document.grid.item.height) :
    (forall floor furnishings, Mask.replay document.grid.item document.stamps = .ok floor ->
      Furnishings.collect document.grid.item document.statements = .ok furnishings ->
      Exists fun loops => floor.outline = .ok loops ∧ forall cellSize,
        document.compile cellSize = Scene.project document.grid.item (loops.map Loop.toNumbers)
          (furnishings.lines.map (·.item)) (furnishings.circles.map (·.item))
          (furnishings.squares.map (·.item)) cellSize Scene.defaultSquareFraction) ∧
    ((forall floor furnishings,
        ¬ (Mask.replay document.grid.item document.stamps = .ok floor ∧
          Furnishings.collect document.grid.item document.statements = .ok furnishings)) ->
      Exists fun fault => (forall cellSize, document.compile cellSize = .error fault) ∧
        match Memory.checkGrid 1 document.grid.item.width document.grid.item.height with
        | .ok _ => Exists fun bad => document.FirstRejected bad fault
        | .error refusal => fault = refusal) ∧
    forall other, document.Rearranges other -> forall cellSize scene,
      (document.compile cellSize = .ok scene ↔ other.compile cellSize = .ok scene) := by
  refine ⟨?_, ?_, ?_⟩
  · intro floor furnishings replayed collected
    exact compile_of_survey (survey_eq_ok_iff.mpr ⟨replayed, collected⟩)
  · intro fails
    have laidOut := Mask.forGrid_of_positive positive
    cases fits : Memory.checkGrid 1 document.grid.item.width document.grid.item.height with
    | ok sides =>
        rw [fits] at laidOut
        rcases exists_firstRejected laidOut fails with ⟨bad, fault, first, failed⟩
        exact ⟨fault, compile_of_survey_error failed, bad, first⟩
    | error refusal =>
        rw [fits] at laidOut
        refine ⟨refusal, compile_of_survey_error ?_, rfl⟩
        rw [survey_eq, laidOut]
        rfl
  · intro other rearranged cellSize scene
    exact ⟨rearranged.compile, rearranged.symm.compile⟩

/-- A yard with a well, its statements in no order. -/
def mixedYard : Document where
  grid := ⟨⟨3, 2⟩, some 1, some 1⟩
  statements :=
    [⟨.line ⟨.top, 0, 0, 2⟩, some 2, some 1⟩, ⟨.stamp ⟨.fill, ⟨0, 0, 3, 2⟩⟩, some 3, some 1⟩,
      ⟨.circle (.around 1 1 (.whole 2)), some 4, some 1⟩,
      ⟨.stamp ⟨.turn, ⟨1, 0, 1, 1⟩⟩, some 5, some 1⟩]

/-- The same yard, one kind of statement after the other. -/
def sortedYard : Document where
  grid := ⟨⟨3, 2⟩, some 1, some 1⟩
  statements :=
    [⟨.stamp ⟨.fill, ⟨0, 0, 3, 2⟩⟩, some 2, some 1⟩, ⟨.stamp ⟨.turn, ⟨1, 0, 1, 1⟩⟩, some 3, some 1⟩,
      ⟨.circle (.around 1 1 (.whole 2)), some 4, some 1⟩, ⟨.line ⟨.top, 0, 0, 2⟩, some 5, some 1⟩]

/-- A yard with three statements that do not fit, of three kinds. -/
def brokenYard : Document where
  grid := ⟨⟨3, 2⟩, some 1, some 1⟩
  statements :=
    [⟨.stamp ⟨.fill, ⟨0, 0, 3, 2⟩⟩, some 2, some 1⟩, ⟨.line ⟨.top, 0, 0, 4⟩, some 3, some 1⟩,
      ⟨.stamp ⟨.turn, ⟨2, 0, 2, 1⟩⟩, some 4, some 1⟩, ⟨.square ⟨3, 0⟩, some 5, some 1⟩]

def yardScene : Scene where
  cellSize := .whole 2
  grid := ⟨3, 2⟩
  loops := [Loop.toNumbers
    ⟨[⟨0, 0⟩, ⟨2, 0⟩, ⟨2, 2⟩, ⟨4, 2⟩, ⟨4, 0⟩, ⟨6, 0⟩, ⟨6, 4⟩, ⟨0, 4⟩]⟩]
  lines := [⟨⟨.whole 0, .whole 0⟩, ⟨.whole 4, .whole 0⟩⟩]
  circles := [⟨⟨.whole 2, .whole 2⟩, .whole 4⟩]
  squares := []

theorem compile_yards :
    (0 < (3 : Int) ∧ 0 < (2 : Int)) ∧ mixedYard.Rearranges sortedYard ∧
      mixedYard.compile (some (.whole 2)) = .ok yardScene ∧
      sortedYard.compile (some (.whole 2)) = .ok yardScene ∧
      forall cellSize, brokenYard.compile cellSize = .error
        (.outOfRange "line along top from 0,0 length 4" "runs past the edge of the grid"
          (some 3) (some 1)) := by
  have rearranged : mixedYard.Rearranges sortedYard := ⟨rfl, rfl, rfl, rfl, rfl⟩
  have compiled : mixedYard.compile (some (.whole 2)) = .ok yardScene := by decide +kernel
  rcases @compile_stages mixedYard (by decide) with ⟨_, _, rearranges⟩
  rcases @compile_stages brokenYard (by decide) with ⟨_, fails, _⟩
  have broken : Furnishings.collect brokenYard.grid.item brokenYard.statements = .error
      (.outOfRange "line along top from 0,0 length 4" "runs past the edge of the grid"
        (some 3) (some 1)) := by decide +kernel
  rcases fails fun floor furnishings both => nomatch broken.symm.trans both.2 with ⟨fault, failed, _⟩
  have blamed : brokenYard.compile none = .error
      (.outOfRange "line along top from 0,0 length 4" "runs past the edge of the grid"
        (some 3) (some 1)) := by decide +kernel
  refine ⟨by decide, rearranged, compiled, (rearranges _ rearranged _ _).mp compiled, ?_⟩
  rw [← Except.error.inj ((failed none).symm.trans blamed)]
  exact failed

end Document
end BattleMap
