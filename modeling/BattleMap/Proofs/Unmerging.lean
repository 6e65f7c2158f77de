import Mathlib.Data.List.Rotate
import BattleMap.Proofs.CheckedJoining

namespace BattleMap

/-!
# Walking along a loop

The sides of a loop are turned back into unit steps by walking: from each corner one
goes on by the same change until the next corner is reached.  On a side that is not
straight this may pass the corner and never end, so walking is a relation here and
not a function.  The loop of a closed chain has only straight sides.  So the walk
along it ends, there is just one, and its steps are the edges of the chain, entered
at the topmost corner.
-/

/-- The steps from a vertex to a goal if each of them makes the same change.  If the
goal is missed there are none. -/
inductive Marches (dx dy : Int) (goal : Vertex) : Vertex -> List (Vertex × Vertex) -> Prop where
  | arrive : Marches dx dy goal goal []
  | advance {v : Vertex} {rest : List (Vertex × Vertex)} (apart : v ≠ goal)
      (onward : Marches dx dy goal ⟨v.x + dx, v.y + dy⟩ rest) :
      Marches dx dy goal v ((v, ⟨v.x + dx, v.y + dy⟩) :: rest)

/-- The steps along sides that are walked one after the other.  The change is chosen
anew at the start of each side. -/
inductive WalksAlong : List (Vertex × Vertex) -> List (Vertex × Vertex) -> Prop where
  | done : WalksAlong [] []
  | side {a b : Vertex} {sides first rest : List (Vertex × Vertex)}
      (marches : Marches (b.x - a.x).sign (b.y - a.y).sign b a first)
      (behind : WalksAlong sides rest) : WalksAlong ((a, b) :: sides) (first ++ rest)

namespace Direction

theorem along_step (direction : Direction) (count : Nat) (v : Vertex) :
    direction.along count (direction.step v) = direction.along (count + 1) v := by
  cases direction <;> simp only [along, step, dx, dy, Point.mk.injEq] <;> omega

theorem step_eq (direction : Direction) (v : Vertex) :
    direction.step v = ⟨v.x + direction.dx, v.y + direction.dy⟩ := by
  cases direction <;> simp [step, dx, dy, Int.sub_eq_add_neg]

end Direction

namespace Marches

variable {dx dy : Int} {goal v : Vertex} {steps others : List (Vertex × Vertex)}

/-- There is only one way to go. -/
theorem unique (marches : Marches dx dy goal v steps) (marchesOther : Marches dx dy goal v others) :
    steps = others := by
  induction marches generalizing others with
  | arrive =>
      cases marchesOther with
      | arrive => rfl
      | advance apart _ => exact absurd rfl apart
  | advance apart _ later =>
      cases marchesOther with
      | arrive => exact absurd rfl apart
      | advance _ onward => exact congrArg _ (later onward)

/-- A goal straight ahead is reached. -/
theorem along (direction : Direction) (count : Nat) (v : Vertex) :
    Marches direction.dx direction.dy (direction.along count v) v
      (Loop.stepsBetween v (direction.along count v)) := by
  rw [Loop.stepsBetween_along]
  induction count generalizing v with
  | zero =>
      rw [Direction.along_zero]
      exact .arrive
  | succ count later =>
      have onward := later (direction.step v)
      simp only [Direction.along_step] at onward
      rw [Direction.step_eq] at onward
      have apart : v ≠ direction.along (count + 1) v := (direction.along_succ_ne count v).symm
      rw [List.range_succ_eq_map, List.map_cons, List.map_map, Direction.along_zero,
        Direction.along_one, Direction.step_eq]
      exact .advance apart onward

end Marches

theorem Ahead.marches_iff {heading : Direction} {a b : Vertex} (ahead : Ahead heading a b)
    {steps : List (Vertex × Vertex)} :
    Marches (b.x - a.x).sign (b.y - a.y).sign b a steps ↔ steps = Loop.stepsBetween a b := by
  rcases ahead with ⟨count, rfl⟩
  rw [Direction.sign_along_x heading (Nat.succ_pos count),
    Direction.sign_along_y heading (Nat.succ_pos count)]
  constructor
  · exact fun marches => marches.unique (.along heading (count + 1) a)
  · rintro rfl
    exact .along heading (count + 1) a

/-- Straight sides can be walked in one way. -/
theorem walksAlong_iff {sides : List (Vertex × Vertex)}
    (straight : forall side, side ∈ sides -> Exists fun heading => Ahead heading side.1 side.2)
    {steps : List (Vertex × Vertex)} :
    WalksAlong sides steps ↔ steps = sides.flatMap fun side => Loop.stepsBetween side.1 side.2 := by
  induction sides generalizing steps with
  | nil =>
      constructor
      · rintro ⟨⟩
        rfl
      · rintro rfl
        exact .done
  | cons side rest later =>
      rcases straight side List.mem_cons_self with ⟨heading, ahead⟩
      have behind := @later fun other member => straight other (List.mem_cons_of_mem _ member)
      rw [List.flatMap_cons]
      constructor
      · rintro (_ | ⟨marches, walked⟩)
        rw [ahead.marches_iff.mp marches, behind.mp walked]
      · rintro rfl
        exact .side (ahead.marches_iff.mpr rfl) (behind.mpr rfl)

/-- Merging the edges of a closed chain into sides can be undone.  There is a corner to
start at, walking along the sides of the loop ends and can be done in one way only, and
the steps of that walk are the edges of the chain up to where it is entered.  It makes
no difference whether the chain passes a vertex several times, where on a straight run
it starts, or whether it turns back somewhere. -/
theorem Chain.toLoop_invertible {chain : Chain} (closed : chain.Closed) (nonempty : chain ≠ []) :
    chain.corners ≠ [] ∧ chain.toLoopChecked = .ok chain.toLoop ∧
      (forall steps, WalksAlong chain.toLoop.sides steps ↔ steps = chain.toLoop.unitSteps) ∧
      chain.toLoop.unitSteps.IsRotated (chain.map Edge.ends) := by
  refine ⟨corners_ne_nil closed nonempty, toLoopChecked_eq closed nonempty,
    fun steps => walksAlong_iff fun _ member => ahead_of_mem_sides closed nonempty member, ?_⟩
  rcases exists_unitSteps_toLoop closed nonempty with ⟨before, after, equal, steps⟩
  rw [steps, equal, List.map_append, List.map_append]
  exact List.isRotated_append

/-- A chain around two cells that touch at a corner.  It starts at that corner, which it
passes twice, in the middle of a straight run. -/
def bowTie : Chain :=
  [⟨⟨1, 1⟩, .east⟩, ⟨⟨2, 1⟩, .south⟩, ⟨⟨2, 2⟩, .west⟩, ⟨⟨1, 2⟩, .north⟩, ⟨⟨1, 1⟩, .north⟩,
    ⟨⟨1, 0⟩, .west⟩, ⟨⟨0, 0⟩, .south⟩, ⟨⟨0, 1⟩, .east⟩]

theorem Chain.toLoop_invertible_bowTie :
    bowTie.Closed ∧ bowTie ≠ [] ∧ bowTie.toLoop = ⟨[⟨0, 0⟩, ⟨0, 1⟩, ⟨2, 1⟩, ⟨2, 2⟩, ⟨1, 2⟩, ⟨1, 0⟩]⟩ ∧
      (forall steps, WalksAlong bowTie.toLoop.sides steps ↔ steps = bowTie.toLoop.unitSteps) ∧
      bowTie.toLoop.unitSteps.IsRotated (bowTie.map Edge.ends) := by
  have closed : bowTie.Closed := by
    unfold Closed
    decide
  exact ⟨closed, by decide, by decide, (toLoop_invertible closed (by decide)).2.2⟩

end BattleMap
