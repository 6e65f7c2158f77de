import BattleMap.Outline.Chain
import BattleMap.Proofs.Cyclic
import BattleMap.Proofs.Lattice

namespace BattleMap

/-!
# Paths of unit edges

A list of edges is a path if each edge starts where the one before it ends, and
it is closed if the last one ends where the first one starts.  Straight stretches
of a path are measured by a direction and a number of steps, so that the unit
steps between their ends can be written down.
-/

namespace Direction

/-- How the first coordinate changes with one step. -/
def dx : Direction -> Int
  | .east => 1
  | .west => -1
  | _ => 0

/-- How the second coordinate changes with one step. -/
def dy : Direction -> Int
  | .south => 1
  | .north => -1
  | _ => 0

/-- The lattice point a number of steps away. -/
def along (direction : Direction) (count : Nat) (v : Vertex) : Vertex :=
  ⟨v.x + count * direction.dx, v.y + count * direction.dy⟩

@[simp] theorem along_zero (direction : Direction) (v : Vertex) : direction.along 0 v = v := by
  simp [along]

theorem along_succ (direction : Direction) (count : Nat) (v : Vertex) :
    direction.along (count + 1) v = direction.step (direction.along count v) := by
  cases direction <;> simp only [along, step, dx, dy, Point.mk.injEq] <;> omega

theorem along_one (direction : Direction) (v : Vertex) :
    direction.along 1 v = direction.step v := by
  rw [along_succ, along_zero]

theorem along_succ_ne (direction : Direction) (count : Nat) (v : Vertex) :
    direction.along (count + 1) v ≠ v := by
  rcases v with ⟨x, y⟩
  cases direction <;> simp only [along, dx, dy, ne_eq, Point.mk.injEq] <;> omega

/-- A straight stretch has the direction of its steps. -/
theorem sign_along_x (direction : Direction) {count : Nat} (long : 0 < count) (v : Vertex) :
    ((direction.along count v).x - v.x).sign = direction.dx := by
  have positive := Int.sign_eq_one_of_pos (Int.natCast_pos.mpr long)
  rw [along, add_sub_cancel_left, Int.sign_mul, positive]
  cases direction <;> rfl

theorem sign_along_y (direction : Direction) {count : Nat} (long : 0 < count) (v : Vertex) :
    ((direction.along count v).y - v.y).sign = direction.dy := by
  have positive := Int.sign_eq_one_of_pos (Int.natCast_pos.mpr long)
  rw [along, add_sub_cancel_left, Int.sign_mul, positive]
  cases direction <;> rfl

end Direction

namespace Edge

/-- An edge as the step from where it starts to where it ends. -/
def ends (edge : Edge) : Vertex × Vertex :=
  (edge.start, edge.finish)

theorem ends_injective {a b : Edge} (same : a.ends = b.ends) : a = b := by
  rcases a with ⟨⟨ax, ay⟩, aDirection⟩
  rcases b with ⟨⟨bx, bY⟩, bDirection⟩
  cases aDirection <;> cases bDirection <;>
    simp only [ends, finish, Direction.step, Prod.mk.injEq, Point.mk.injEq, Edge.mk.injEq,
      reduceCtorEq, and_true, and_false] at same ⊢ <;> omega

end Edge

namespace Loop

/-- The unit steps of a straight stretch. -/
theorem stepsBetween_along (direction : Direction) (count : Nat) (v : Vertex) :
    stepsBetween v (direction.along count v) =
      (List.range count).map fun i => (direction.along i v, direction.along (i + 1) v) := by
  rcases Nat.eq_zero_or_pos count with none | some
  · subst none
    simp [stepsBetween]
  · have long : (0 : Int) < count := Int.natCast_pos.mpr some
    have extent : max (count * direction.dx).natAbs (count * direction.dy).natAbs = count := by
      cases direction <;> simp only [Direction.dx, Direction.dy] <;> omega
    have shiftX : (direction.along count v).x - v.x = count * direction.dx :=
      add_sub_cancel_left v.x _
    have shiftY : (direction.along count v).y - v.y = count * direction.dy :=
      add_sub_cancel_left v.y _
    unfold stepsBetween
    simp only [direction.sign_along_x some, direction.sign_along_y some]
    simp only [shiftX, shiftY, extent]
    apply List.map_congr_left
    intro i _
    simp only [Direction.along, Int.natCast_add, Int.natCast_one]

/-- One more edge at the end of a straight stretch is one more step. -/
theorem stepsBetween_along_succ (direction : Direction) (count : Nat) (v : Vertex) :
    stepsBetween v (direction.along (count + 1) v) =
      stepsBetween v (direction.along count v) ++
        [(direction.along count v, direction.along (count + 1) v)] := by
  rw [stepsBetween_along, stepsBetween_along, List.range_succ, List.map_append, List.map_singleton]

end Loop

namespace Chain

/-- The edges lead from one vertex to another. -/
def Leads : Vertex -> Chain -> Vertex -> Prop
  | v, [], w => v = w
  | v, edge :: rest, w => edge.start = v ∧ Leads edge.finish rest w

theorem leads_append {v w : Vertex} (a b : Chain) :
    Leads v (a ++ b) w ↔ Exists fun u => Leads v a u ∧ Leads u b w := by
  induction a generalizing v with
  | nil =>
      constructor
      · intro leads
        exact ⟨v, rfl, leads⟩
      · rintro ⟨u, same, leads⟩
        change v = u at same
        rw [same]
        exact leads
  | cons edge rest later =>
      change (edge.start = v ∧ Leads edge.finish (rest ++ b) w) ↔ _
      rw [later]
      constructor
      · rintro ⟨start, u, first, second⟩
        exact ⟨u, ⟨start, first⟩, second⟩
      · rintro ⟨u, ⟨start, first⟩, second⟩
        exact ⟨start, u, first, second⟩

/-- A chain is closed if its edges end where, one place further on, its edges start. -/
def Closed (chain : Chain) : Prop :=
  chain.map Edge.finish = Loop.rotated (chain.map Edge.start)

private theorem leads_of_map_finish {w : Vertex} (first : Edge) (rest : Chain)
    (linked : (first :: rest).map Edge.finish = rest.map Edge.start ++ [w]) :
    Leads first.start (first :: rest) w := by
  induction rest generalizing first with
  | nil => exact ⟨rfl, (List.cons.inj linked).1⟩
  | cons second rest later =>
      have parts := List.cons.inj linked
      have leads := later second parts.2
      rw [← parts.1] at leads
      exact ⟨rfl, leads⟩

theorem Closed.leads {first : Edge} {rest : Chain} (closed : Closed (first :: rest)) :
    Leads first.start (first :: rest) first.start :=
  leads_of_map_finish first rest closed

/-- A closed chain may be entered at any of its edges. -/
theorem Closed.leads_from {before after : Chain} {edge : Edge}
    (closed : Closed (before ++ edge :: after)) :
    Leads edge.start (edge :: after ++ before) edge.start := by
  have round : Exists fun v => Leads v (before ++ edge :: after) v := by
    cases before with
    | nil => exact ⟨_, closed.leads⟩
    | cons first rest => exact ⟨_, closed.leads⟩
  rcases round with ⟨v, round⟩
  rcases (leads_append before (edge :: after)).mp round with ⟨u, head, tail⟩
  have entry : edge.start = u := tail.1
  rw [entry]
  exact (leads_append (edge :: after) before).mpr ⟨v, tail, head⟩

/-- Edges that all run the same way lead straight ahead. -/
theorem along_of_leads {direction : Direction} {v w : Vertex} (chain : Chain)
    (leads : Leads v chain w) (same : forall edge, edge ∈ chain -> edge.direction = direction) :
    w = direction.along chain.length v := by
  have general : forall (count : Nat) (chain : Chain),
      Leads (direction.along count v) chain w ->
      (forall edge, edge ∈ chain -> edge.direction = direction) ->
      w = direction.along (count + chain.length) v := by
    intro count chain
    induction chain generalizing count with
    | nil =>
        intro leads _
        exact leads.symm
    | cons edge rest later =>
        intro leads same
        have heading := same edge List.mem_cons_self
        have next : edge.finish = direction.along (count + 1) v := by
          rw [Edge.finish, heading, leads.1, Direction.along_succ]
        rw [List.length_cons, Nat.add_comm rest.length, ← Nat.add_assoc]
        exact later (count + 1) (next ▸ leads.2)
          (fun edge member => same edge (List.mem_cons_of_mem _ member))
  have whole := general 0 chain
  rw [Direction.along_zero, Nat.zero_add] at whole
  exact whole leads same

end Chain
end BattleMap
