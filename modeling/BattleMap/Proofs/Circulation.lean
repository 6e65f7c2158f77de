import Mathlib.Data.Int.Cast.Lemmas
import Mathlib.Tactic.SplitIfs
import BattleMap.Proofs.Corners

namespace BattleMap

open Regions (Cell)

/-!
# Winding numbers of edges

The winding number of a list of edges at a cell counts its upright edges in the
row of the cell and to the right of it.  Between two cells in a row it changes
by the upright edges on their common side.  For a closed chain the same holds of
two cells in a column, although upright edges alone are counted: what is missing
is the change of a potential along the chain, and around a closed chain that
adds up to nothing.
-/

/-- What a straight side counts for a cell: one if it runs downward past the
row on the right of the cell, minus one if it runs upward. -/
def crossing (cell : Cell) (a b : Vertex) : Int :=
  if a.x = b.x ∧ cell.1 < a.x then
    (if cell.2 < b.y then 1 else 0) - (if cell.2 < a.y then 1 else 0)
  else 0

theorem crossing_mk (x y ax ay bx bY : Int) :
    crossing (x, y) ⟨ax, ay⟩ ⟨bx, bY⟩ =
      if ax = bx ∧ x < ax then (if y < bY then 1 else 0) - (if y < ay then 1 else 0) else 0 :=
  rfl

theorem crossing_self (cell : Cell) (v : Vertex) : crossing cell v v = 0 := by
  unfold crossing
  split
  · exact Int.sub_self _
  · rfl

theorem crossing_along_succ (cell : Cell) (direction : Direction) (count : Nat) (v : Vertex) :
    crossing cell v (direction.along (count + 1) v) =
      crossing cell v (direction.along count v) +
        crossing cell (direction.along count v) (direction.along (count + 1) v) := by
  cases direction <;> simp only [crossing, Direction.along, Direction.dx, Direction.dy] <;>
    split_ifs <;> omega

namespace Chain

/-- The winding number of a list of edges at a cell. -/
def winding (edges : List Edge) (cell : Cell) : Int :=
  (edges.map fun edge => crossing cell edge.start edge.finish).sum

theorem winding_cons (edge : Edge) (edges : List Edge) (cell : Cell) :
    winding (edge :: edges) cell = crossing cell edge.start edge.finish + winding edges cell := by
  unfold winding
  rw [List.map_cons, List.sum_cons]

theorem winding_perm {a b : List Edge} (same : a.Perm b) (cell : Cell) :
    winding a cell = winding b cell :=
  (same.map _).sum_eq

theorem winding_flatten (chains : List Chain) (cell : Cell) :
    winding chains.flatten cell = (chains.map fun chain => winding chain cell).sum := by
  induction chains with
  | nil => rfl
  | cons chain rest later =>
      rw [List.map_cons, List.sum_cons, ← later]
      unfold winding
      rw [List.flatten_cons, List.map_append, List.sum_append]

/-- Nothing is counted for a cell that has all edges above it, below it, or on
its left. -/
theorem winding_eq_zero {edges : List Edge} {cell : Cell}
    (beyond : forall edge, edge ∈ edges ->
      edge.start.x ≤ cell.1 ∨ (cell.2 < edge.start.y ∧ cell.2 < edge.finish.y) ∨
        (edge.start.y ≤ cell.2 ∧ edge.finish.y ≤ cell.2)) :
    winding edges cell = 0 := by
  induction edges with
  | nil => rfl
  | cons edge rest later =>
      rw [winding_cons, later fun other member => beyond other (List.mem_cons_of_mem _ member)]
      have position := beyond edge List.mem_cons_self
      unfold crossing
      split_ifs <;> omega

private theorem crossing_sub_crossing (x y : Int) (edge : Edge) :
    crossing (x - 1, y) edge.start edge.finish - crossing (x, y) edge.start edge.finish =
      (if edge = ⟨⟨x, y⟩, .south⟩ then 1 else 0) - (if edge = ⟨⟨x, y + 1⟩, .north⟩ then 1 else 0) := by
  rcases edge with ⟨⟨u, v⟩, direction⟩
  cases direction <;>
    simp only [crossing_mk, Edge.finish, Direction.step, Edge.mk.injEq, Point.mk.injEq, reduceCtorEq,
      true_and, and_true, and_false, if_false] <;>
    split_ifs <;> omega

/-- Along a row the winding number changes by the upright edges in between. -/
theorem winding_sub_winding_of_row (edges : List Edge) (x y : Int) :
    winding edges (x - 1, y) - winding edges (x, y) =
      edges.count ⟨⟨x, y⟩, .south⟩ - edges.count ⟨⟨x, y + 1⟩, .north⟩ := by
  induction edges with
  | nil => rfl
  | cons edge rest later =>
      have first := crossing_sub_crossing x y edge
      rw [winding_cons, winding_cons, List.count_cons, List.count_cons]
      simp only [beq_iff_eq, Nat.cast_add, Nat.cast_ite, Nat.cast_one, Nat.cast_zero]
      omega

/-! ## Closed chains -/

/-- Any function of the vertices has the same sum over both ends of the edges. -/
theorem Closed.sum_map_finish {chain : Chain} (closed : chain.Closed) (f : Vertex -> Int) :
    (chain.map fun edge => f edge.finish).sum = (chain.map fun edge => f edge.start).sum := by
  have ends : (chain.map Edge.finish).Perm (chain.map Edge.start) :=
    closed ▸ Loop.rotated_perm (chain.map Edge.start)
  have sums := (ends.map f).sum_eq
  rw [List.map_map, List.map_map] at sums
  exact sums

private theorem crossing_add_potential (x y : Int) (edge : Edge) :
    crossing (x, y) edge.start edge.finish +
        (if x < edge.finish.x ∧ edge.finish.y = y then 1 else 0) =
      crossing (x, y - 1) edge.start edge.finish +
        (if x < edge.start.x ∧ edge.start.y = y then 1 else 0) +
        ((if edge = ⟨⟨x, y⟩, .east⟩ then 1 else 0) -
          (if edge = ⟨⟨x + 1, y⟩, .west⟩ then 1 else 0)) := by
  rcases edge with ⟨⟨u, v⟩, direction⟩
  cases direction <;>
    simp only [crossing_mk, Edge.finish, Direction.step, Edge.mk.injEq, Point.mk.injEq, reduceCtorEq,
      true_and, and_true, and_false, if_false] <;>
    split_ifs <;> omega

/-- Along a column the winding number of a closed chain changes by the level
edges in between. -/
theorem Closed.winding_sub_winding_of_column {chain : Chain} (closed : chain.Closed) (x y : Int) :
    winding chain (x, y) - winding chain (x, y - 1) =
      chain.count ⟨⟨x, y⟩, .east⟩ - chain.count ⟨⟨x + 1, y⟩, .west⟩ := by
  have general : forall edges : List Edge,
      winding edges (x, y) +
          (edges.map fun edge => if x < edge.finish.x ∧ edge.finish.y = y then (1 : Int) else 0).sum =
        winding edges (x, y - 1) +
          (edges.map fun edge => if x < edge.start.x ∧ edge.start.y = y then (1 : Int) else 0).sum +
          (edges.count ⟨⟨x, y⟩, .east⟩ - edges.count ⟨⟨x + 1, y⟩, .west⟩) := by
    intro edges
    induction edges with
    | nil => rfl
    | cons edge rest later =>
        have first := crossing_add_potential x y edge
        rw [winding_cons, winding_cons, List.count_cons, List.count_cons, List.map_cons,
          List.map_cons, List.sum_cons, List.sum_cons]
        simp only [beq_iff_eq, Nat.cast_add, Nat.cast_ite, Nat.cast_one, Nat.cast_zero]
        omega
  have balanced := closed.sum_map_finish fun v => if x < v.x ∧ v.y = y then 1 else 0
  have whole := general chain
  omega

/-- Across an edge the winding number of a closed chain changes by the uses of
that edge and of its reverse. -/
theorem Closed.winding_rightCell_sub {chain : Chain} (closed : chain.Closed) (edge : Edge) :
    winding chain edge.rightCell - winding chain edge.leftCell =
      chain.count edge - chain.count edge.reverse := by
  rcases edge with ⟨⟨x, y⟩, direction⟩
  cases direction with
  | east => exact closed.winding_sub_winding_of_column x y
  | south => exact winding_sub_winding_of_row chain x y
  | west =>
      have across := closed.winding_sub_winding_of_column (x - 1) y
      rw [Int.sub_add_cancel] at across
      simp only [Edge.rightCell, Edge.leftCell, Edge.reverse, Edge.finish, Direction.step,
        Direction.opposite]
      omega
  | north =>
      have across := winding_sub_winding_of_row chain x (y - 1)
      rw [Int.sub_add_cancel] at across
      simp only [Edge.rightCell, Edge.leftCell, Edge.reverse, Edge.finish, Direction.step,
        Direction.opposite]
      omega

end Chain
end BattleMap
