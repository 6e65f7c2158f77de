import BattleMap.Proofs.Interleaving

namespace BattleMap

/-!
# Lines on the lattice

A line runs along one side of a cell and on from there, to the right if the side is
the top or the bottom one and down if it is the left or the right one.  So it passes
one lattice point more than it is cells long.  The check looks at the two ends only, and
that is enough: the points of the grid form a box, and a line that has both its ends in
a box stays there.

A line that fails the check is refused by its text.  A line with a number that is too long
has none, and the outcome is that a number has too many digits.
-/

namespace SideLine

/-- The lattice point that a line passes after so many cells. -/
def pointAt (line : SideLine) (n : Int) : Vertex :=
  match line.side with
  | .left => ⟨line.x, line.y + n⟩
  | .right => ⟨line.x + 1, line.y + n⟩
  | .top => ⟨line.x + n, line.y⟩
  | .bottom => ⟨line.x + n, line.y + 1⟩

/-- The lattice points of a line, from its start to its end. -/
def points (line : SideLine) : List Vertex :=
  (List.range (line.length.toNat + 1)).map fun n : Nat => line.pointAt n

theorem ends_eq (line : SideLine) :
    line.ends = .ok (((line.pointAt 0).x, (line.pointAt 0).y),
      ((line.pointAt line.length).x, (line.pointAt line.length).y)) := by
  rcases line with ⟨side, x, y, length⟩
  unfold pointAt
  cases side <;> simp only [Int.add_zero] <;> rfl

/-- A line runs to the right or down. -/
theorem pointAt_runs (line : SideLine) :
    (forall n, line.pointAt n = ⟨(line.pointAt 0).x + n, (line.pointAt 0).y⟩) ∨
      forall n, line.pointAt n = ⟨(line.pointAt 0).x, (line.pointAt 0).y + n⟩ := by
  rcases line with ⟨side, x, y, length⟩
  unfold pointAt
  cases side with
  | top | bottom => exact .inl fun n => by simp only [Int.add_zero]
  | left | right => exact .inr fun n => by simp only [Int.add_zero]

theorem head?_points (line : SideLine) : line.points.head? = some (line.pointAt 0) := by
  unfold points
  rw [List.head?_map, List.head?_range, if_neg (Nat.succ_ne_zero _)]
  rfl

theorem getLast?_points {line : SideLine} (long : 0 < line.length) :
    line.points.getLast? = some (line.pointAt line.length) := by
  unfold points
  rw [List.getLast?_map, List.getLast?_range, if_neg (Nat.succ_ne_zero _), Nat.add_sub_cancel]
  exact congrArg (fun n => some (line.pointAt n)) (Int.toNat_of_nonneg (Int.le_of_lt long))

theorem forall_mem_points_iff {line : SideLine} (long : 0 < line.length) {p : Vertex -> Prop} :
    (forall point, point ∈ line.points -> p point) ↔
      forall n, 0 ≤ n -> n ≤ line.length -> p (line.pointAt n) := by
  unfold points
  rw [List.forall_mem_map]
  constructor
  · intro all n nonneg upTo
    have listed := all n.toNat (List.mem_range.mpr (by omega))
    rwa [Int.toNat_of_nonneg nonneg] at listed
  · intro all n listed
    have upTo := List.mem_range.mp listed
    exact all n (by omega) (by omega)

end SideLine

namespace GridSize

variable {size : GridSize} {line : Placed SideLine}

/-- Whether a lattice point belongs to the grid, its far edges included. -/
def Covers (size : GridSize) (point : Vertex) : Prop :=
  0 ≤ point.x ∧ point.x ≤ size.width ∧ 0 ≤ point.y ∧ point.y ≤ size.height

theorem hasPoint_iff {point : Vertex} :
    size.hasPoint (point.x, point.y) = true ↔ size.Covers point := by
  unfold hasPoint Covers
  simp [Coordinate.atMost_int, Coordinate.ofInt_int, and_assoc]

/-- The points of the grid form a box. -/
theorem covers_pointAt {item : SideLine} {m n : Int} (start : size.Covers (item.pointAt 0))
    (finish : size.Covers (item.pointAt m)) (nonneg : 0 ≤ n) (le : n ≤ m) :
    size.Covers (item.pointAt n) := by
  unfold Covers at *
  rcases item.pointAt_runs with runs | runs
  all_goals
    rw [runs m] at finish
    rw [runs n]
    dsimp only at *
    omega

/-- A line is accepted if it has a length and all its points belong to the grid. -/
theorem checkLine_eq_ok_iff_points : size.checkLine line = .ok () ↔
    0 < line.item.length ∧ forall point, point ∈ line.item.points -> size.Covers point := by
  rw [checkLine_eq_ok_iff]
  apply and_congr_right
  intro long
  rw [SideLine.forall_mem_points_iff long, line.item.ends_eq]
  constructor
  · rintro ⟨ends, same, start, finish⟩ n nonneg le
    cases same
    exact covers_pointAt (hasPoint_iff.mp start) (hasPoint_iff.mp finish) nonneg le
  · intro all
    have nonneg := Int.le_of_lt long
    exact ⟨_, rfl, hasPoint_iff.mpr (all 0 (Int.le_refl 0) nonneg),
      hasPoint_iff.mpr (all line.item.length nonneg (Int.le_refl _))⟩

/-- The length is looked at first, then the start, and then the end. -/
theorem checkLine_eq (size : GridSize) (line : Placed SideLine) :
    size.checkLine line =
      let reject := line.reject line.item.text
      let start := line.item.pointAt 0
      let finish := line.item.pointAt line.item.length
      if line.item.length ≤ 0 then reject "length must be positive"
      else if !size.hasPoint (start.x, start.y) then reject "start lies outside the grid"
      else if !size.hasPoint (finish.x, finish.y) then reject "runs past the edge of the grid"
      else .ok () := by
  unfold checkLine
  rw [line.item.ends_eq]
  dsimp only
  rw [Coordinate.atMost_int, Coordinate.ofInt_int]
  by_cases short : line.item.length ≤ 0
  · rw [if_pos (decide_eq_true short), if_pos short]
  · rw [if_neg (by simpa using short), if_neg short]
    rfl

theorem exists_checkLine_iff :
    (Exists fun accepted => size.checkLine line = .ok accepted) ↔ size.checkLine line = .ok () :=
  ⟨fun ⟨_, accepted⟩ => accepted, fun accepted => ⟨(), accepted⟩⟩

theorem judged_checkLine (size : GridSize) (line : Placed SideLine) :
    line.Judged line.item.text (size.checkLine line) := by
  rw [checkLine_eq]
  dsimp only
  split
  · exact .inr ⟨_, rfl⟩
  · split
    · exact .inr ⟨_, rfl⟩
    · split
      · exact .inr ⟨_, rfl⟩
      · exact .inl ⟨(), rfl⟩

/-- A line has no length, or one of its points lies outside the grid. -/
def Excludes (size : GridSize) (line : SideLine) : Prop :=
  line.length ≤ 0 ∨ Exists fun point => point ∈ line.points ∧ ¬ size.Covers point

/-- It is enough that one point of a line lies outside the grid, wherever it lies on
the line. -/
theorem excludes_iff :
    size.Excludes line.item ↔ ¬ Exists fun accepted => size.checkLine line = .ok accepted := by
  rw [exists_checkLine_iff, checkLine_eq_ok_iff_points]
  unfold Excludes
  simp only [not_and_or, Int.not_lt, not_forall, exists_prop]

/-- A line is refused as out of range. -/
def Refuses (size : GridSize) (line : Placed SideLine) : Prop :=
  line.IsRefusal line.item.text (size.checkLine line)

/-- A line is refused if it is not one of the grid and can be named. -/
theorem refuses_iff : size.Refuses line ↔ size.Excludes line.item ∧ line.item.IsWritable := by
  rw [excludes_iff]
  exact line.item.writtenIf_text.isRefusal_iff (judged_checkLine size line)

theorem checkLine_eq_tooManyDigits_iff :
    size.checkLine line = .error .tooManyDigits ↔
      size.Excludes line.item ∧ ¬ line.item.IsWritable := by
  rw [excludes_iff]
  exact line.item.writtenIf_text.eq_tooManyDigits_iff (judged_checkLine size line)

/-- The lines that are refused are the ones that are not lines of the grid. -/
def JudgesExactly (size : GridSize) (line : Placed SideLine) : Prop :=
  size.Refuses line ↔ size.Excludes line.item

/-- The grid in pixels has the points of the grid, in pixels. -/
theorem Covers.magnified {point : Vertex} (covered : size.Covers point) {scale : Int}
    (positive : 1 ≤ scale) :
    GridSize.Covers ⟨size.width * scale, size.height * scale⟩ (point.map (· * scale)) := by
  have nonneg : 0 ≤ scale := Int.le_trans Int.one_nonneg positive
  rcases covered with ⟨left, right, top, bottom⟩
  exact ⟨Int.mul_nonneg left nonneg, Int.mul_le_mul_of_nonneg_right right nonneg,
    Int.mul_nonneg top nonneg, Int.mul_le_mul_of_nonneg_right bottom nonneg⟩

end GridSize

namespace SideLine

theorem projectLine_eq (line : SideLine) (scale : Int) :
    Scene.projectLine (.whole scale) line =
      .ok ⟨((line.pointAt 0).map (· * scale)).map Number.whole,
        ((line.pointAt line.length).map (· * scale)).map Number.whole⟩ := by
  unfold Scene.projectLine
  rw [line.ends_eq]
  rfl

theorem magnified_pointAt (line : SideLine) (n scale : Int) :
    (line.pointAt n).map (· * scale) =
        ⟨(line.pointAt 0).x * scale + n * scale, (line.pointAt 0).y * scale⟩ ∨
      (line.pointAt n).map (· * scale) =
        ⟨(line.pointAt 0).x * scale, (line.pointAt 0).y * scale + n * scale⟩ := by
  rcases line.pointAt_runs with runs | runs
  · left
    rw [runs n, ← Int.add_mul]
    rfl
  · right
    rw [runs n, ← Int.add_mul]
    rfl

end SideLine

/-- A line passes its check exactly if it has a length and none of its points lies outside
the grid.  Otherwise it is refused as out of range, provided that its numbers can be
written, and if they cannot, the outcome is that a number is too long.  In pixels an
accepted line runs to the right or down by its length, between corners of cells, and within
the picture of the grid. -/
theorem GridSize.checkLine_exact (size : GridSize) (line : Placed SideLine) :
    (size.JudgesExactly line ↔ (size.Excludes line.item -> line.item.IsWritable)) ∧
    (size.checkLine line = .ok () ↔ ¬ size.Excludes line.item) ∧
    (size.Refuses line ↔ size.Excludes line.item ∧ line.item.IsWritable) ∧
    (size.checkLine line = .error .tooManyDigits ↔
      size.Excludes line.item ∧ ¬ line.item.IsWritable) ∧
    forall scale : Int, 1 ≤ scale -> size.checkLine line = .ok () ->
      Exists fun start : Vertex => Exists fun finish : Vertex =>
        line.item.points.head? = some start ∧ line.item.points.getLast? = some finish ∧
          Scene.projectLine (.whole scale) line.item =
            .ok ⟨(start.map (· * scale)).map Number.whole, (finish.map (· * scale)).map Number.whole⟩ ∧
          (finish.map (· * scale) = ⟨start.x * scale + line.item.length * scale, start.y * scale⟩ ∨
            finish.map (· * scale) = ⟨start.x * scale, start.y * scale + line.item.length * scale⟩) ∧
          0 < line.item.length * scale ∧
          GridSize.Covers ⟨size.width * scale, size.height * scale⟩ (start.map (· * scale)) ∧
          GridSize.Covers ⟨size.width * scale, size.height * scale⟩ (finish.map (· * scale)) := by
  refine ⟨?_, ?_, refuses_iff, checkLine_eq_tooManyDigits_iff, ?_⟩
  · unfold JudgesExactly
    rw [refuses_iff, and_iff_left_iff_imp]
  · rw [excludes_iff, not_not, exists_checkLine_iff]
  intro scale positive accepted
  rcases checkLine_eq_ok_iff_points.mp accepted with ⟨long, within⟩
  rw [SideLine.forall_mem_points_iff long] at within
  have nonneg := Int.le_of_lt long
  exact ⟨_, _, line.item.head?_points, SideLine.getLast?_points long,
    line.item.projectLine_eq scale, line.item.magnified_pointAt _ scale,
    Int.mul_pos long positive, (within 0 (Int.le_refl 0) nonneg).magnified positive,
    (within _ nonneg (Int.le_refl _)).magnified positive⟩

/-- A line that starts at the first cell and whose length is too long to be written. -/
def endlessLine : Placed SideLine :=
  ⟨⟨.top, 0, 0, Decimal.writtenLimit⟩, some 0, some 0⟩

theorem GridSize.not_judgesExactly_endlessLine :
    ¬ GridSize.JudgesExactly ⟨1, 1⟩ endlessLine ∧
      GridSize.checkLine ⟨1, 1⟩ endlessLine = .error .tooManyDigits := by
  have long : ¬ endlessLine.item.IsWritable := fun writable =>
    Decimal.not_isWritable_writtenLimit writable.2
  have far : 1 < Decimal.writtenLimit := by decide +kernel
  have excludes : GridSize.Excludes ⟨1, 1⟩ endlessLine.item := by
    have positive : 0 < endlessLine.item.length := by
      change (0 : Int) < (Decimal.writtenLimit : Int)
      omega
    apply excludes_iff.mpr
    rintro ⟨_, accepted⟩
    have within := (SideLine.forall_mem_points_iff positive).mp
      (checkLine_eq_ok_iff_points.mp accepted).2 2 (by decide)
    have covered := within (by change (2 : Int) ≤ (Decimal.writtenLimit : Int); omega)
    exact absurd covered.2.1 (by decide)
  exact ⟨fun exact => long (refuses_iff.mp (exact.mpr excludes)).2,
    checkLine_eq_tooManyDigits_iff.mpr ⟨excludes, long⟩⟩

end BattleMap
