import Mathlib.Algebra.Order.Group.Int
import Mathlib.Data.List.Count
import BattleMap.Outline
import BattleMap.Proofs.Outcome

namespace BattleMap

/-!
# Joining edges somewhere else

Edges that are all moved by the same offset are joined as before, chain by chain and
corner by corner, only that everything is moved with them.  This holds for any
edges, also for those that close no loop: the walk then ends at the moved vertex.

The one part of the program that looks at absolute coordinates is the pool of unused
edges, which spreads them over buckets.  Two pools are therefore compared by how
often they hold each edge, and the two runs of the program are followed side by
side: each step takes corresponding edges from corresponding pools.
-/

/-- The point that lies at an offset from another one. -/
def Point.moved (v offset : Vertex) : Vertex :=
  ⟨v.x + offset.x, v.y + offset.y⟩

/-- The edge with its start moved. -/
def Edge.moved (edge : Edge) (offset : Vertex) : Edge :=
  ⟨edge.start.moved offset, edge.direction⟩

/-- The loop with all its corners moved. -/
def Loop.moved (loop : Loop Int) (offset : Vertex) : Loop Int :=
  ⟨loop.points.map (·.moved offset)⟩

variable {offset : Vertex}

theorem Point.moved_injective (offset : Vertex) : Function.Injective fun v : Vertex => v.moved offset := by
  rintro ⟨x, y⟩ ⟨u, v⟩ same
  simp only [moved, mk.injEq] at same ⊢
  omega

theorem Direction.step_moved (direction : Direction) (v offset : Vertex) :
    direction.step (v.moved offset) = (direction.step v).moved offset := by
  cases direction <;> simp only [step, Point.moved, Point.mk.injEq, and_true, true_and] <;> omega

namespace Edge

theorem moved_injective (offset : Vertex) : Function.Injective fun edge : Edge => edge.moved offset := by
  rintro ⟨start, direction⟩ ⟨other, otherDirection⟩ same
  simp only [moved, mk.injEq] at same
  rw [Point.moved_injective offset same.1, same.2]

theorem moved_inj {a b : Edge} : a.moved offset = b.moved offset ↔ a = b :=
  (moved_injective offset).eq_iff

theorem finish_moved (edge : Edge) (offset : Vertex) :
    (edge.moved offset).finish = edge.finish.moved offset :=
  edge.direction.step_moved edge.start offset

end Edge

/-! ## Unused edges -/

/-- The second pool holds, at an offset, the edges of the first one. -/
def EdgePool.Corresponds (offset : Vertex) (pool other : EdgePool) : Prop :=
  forall edge, other.multiplicity (edge.moved offset) = pool.multiplicity edge

namespace EdgePool.Corresponds

variable {pool other : EdgePool}

theorem contains_moved (same : Corresponds offset pool other) (edge : Edge) :
    other.contains (edge.moved offset) = pool.contains edge := by
  rw [Bool.eq_iff_iff, contains_iff, contains_iff, same edge]

theorem take (same : Corresponds offset pool other) (edge : Edge) :
    Corresponds offset (pool.take edge) (other.take (edge.moved offset)) := by
  intro held
  simp only [multiplicity_take, same held, Edge.moved_inj]

theorem ofList (offset : Vertex) (edges : List Edge) :
    Corresponds offset (EdgePool.ofList edges) (EdgePool.ofList (edges.map (·.moved offset))) := by
  intro edge
  rw [multiplicity_ofList, multiplicity_ofList]
  exact List.count_map_of_injective edges _ (Edge.moved_injective offset) edge

end EdgePool.Corresponds

/-! ## Chains -/

namespace Chain

/-- The chain with all its edges moved. -/
def moved (chain : Chain) (offset : Vertex) : Chain :=
  chain.map (·.moved offset)

variable {first last edge : Edge} {walked : Chain} {unused other : EdgePool}

theorem walk_of_next?_eq_none (none : next? first last unused = none) :
    walk first last walked unused = .error last.finish := by
  unfold walk
  split
  · rfl
  · rename_i found
    rw [none] at found
    cases found

theorem walk_of_next?_eq_first (found : next? first last unused = some first) :
    walk first last walked unused = .ok (walked.reverse, unused) := by
  unfold walk
  split
  · rename_i none
    rw [found] at none
    cases none
  · rename_i edge chosen
    rw [found] at chosen
    cases chosen
    exact if_pos rfl

theorem walk_of_next?_eq_some (found : next? first last unused = some edge) (goesOn : edge ≠ first) :
    walk first last walked unused = walk first edge (edge :: walked) (unused.take edge) := by
  conv => lhs; unfold walk
  split
  · rename_i none
    rw [found] at none
    cases none
  · rename_i next chosen
    rw [found] at chosen
    cases chosen
    exact if_neg goesOn

/-- From corresponding edges a walk goes on with corresponding edges. -/
theorem next?_moved (same : EdgePool.Corresponds offset unused other) (first last : Edge) :
    next? (first.moved offset) (last.moved offset) other =
      (next? first last unused).map (·.moved offset) := by
  have offered : ((preferences (last.moved offset).direction).map fun direction =>
        (⟨(last.moved offset).finish, direction⟩ : Edge)) =
      ((preferences last.direction).map fun direction =>
        (⟨last.finish, direction⟩ : Edge)).map (·.moved offset) := by
    rw [List.map_map, Edge.finish_moved]
    rfl
  unfold next?
  rw [offered, List.find?_map]
  congr 2
  funext edge
  simp only [Function.comp_apply, same.contains_moved, Edge.moved_inj]

/-- Two walks come to corresponding ends. -/
theorem walk_moved (same : EdgePool.Corresponds offset unused other) (first last : Edge)
    (walked : Chain) :
    Outcome.Alike (fun v w => w = v.moved offset)
      (fun made others => others.1 = made.1.moved offset ∧
        EdgePool.Corresponds offset made.2 others.2)
      (walk first last walked unused)
      (walk (first.moved offset) (last.moved offset) (walked.moved offset) other) := by
  fun_induction walk first last walked unused generalizing other with
  | case1 last walked unused none =>
      have noneMoved := next?_moved same first last
      rw [none] at noneMoved
      rw [walk_of_next?_eq_none noneMoved]
      exact .error (last.finish_moved offset)
  | case2 last walked unused found =>
      have foundMoved := next?_moved same first last
      rw [found] at foundMoved
      rw [walk_of_next?_eq_first foundMoved]
      exact .ok ⟨List.map_reverse.symm, same⟩
  | case3 last walked unused edge found goesOn walks =>
      have foundMoved := next?_moved same first last
      rw [found] at foundMoved
      rw [walk_of_next?_eq_some foundMoved (Edge.moved_inj.not.mpr goesOn)]
      exact walks (same.take edge)

/-- The second pair holds, at an offset, the chains and the unused edges of the first one. -/
def JoinedApart (offset : Vertex) (made others : List Chain × EdgePool) : Prop :=
  others.1 = made.1.map (·.moved offset) ∧ EdgePool.Corresponds offset made.2 others.2

/-- Visiting an edge adds corresponding chains. -/
theorem addChain_moved {made others : List Chain × EdgePool} (apart : JoinedApart offset made others)
    (edge : Edge) :
    Outcome.Alike (fun v w => w = v.moved offset) (JoinedApart offset)
      (addChain made edge) (addChain others (edge.moved offset)) := by
  rcases made with ⟨made, unused⟩
  rcases others with ⟨others, other⟩
  rcases apart with ⟨chains, same⟩
  dsimp only at chains same
  unfold addChain
  dsimp only
  rw [same.contains_moved]
  split
  · refine (walk_moved (same.take edge) edge edge [edge]).bind ?_
    rintro ⟨chain, left⟩ ⟨counterpart, leftOther⟩ ⟨rfl, onward⟩
    exact .ok ⟨by rw [chains]; rfl, onward⟩
  · exact .ok ⟨chains, same⟩

/-- Joining moved edges makes the moved chains, or it fails at the moved vertex. -/
theorem ofEdges_moved (edges : List Edge) (offset : Vertex) :
    Outcome.Alike (fun v w => w = v.moved offset)
      (fun chains others => others = chains.map (·.moved offset))
      (ofEdges edges) (ofEdges (edges.map (·.moved offset))) := by
  have start : JoinedApart offset ([], EdgePool.ofList edges)
      ([], EdgePool.ofList (edges.map (·.moved offset))) :=
    ⟨rfl, EdgePool.Corresponds.ofList offset edges⟩
  refine (Outcome.Alike.foldlM (fun _ _ edge apart => addChain_moved apart edge) start).bind ?_
  rintro ⟨chains, unused⟩ ⟨others, other⟩ ⟨rfl, _⟩
  exact .ok List.map_reverse.symm

/-! ## Corners -/

theorem corners_moved (chain : Chain) (offset : Vertex) :
    (chain.moved offset).corners = chain.corners.map (·.moved offset) := by
  have directions : (chain.moved offset).map (·.direction) = chain.map (·.direction) := List.map_map
  have last : (chain.moved offset).getLast?.map (·.direction) = chain.getLast?.map (·.direction) := by
    rw [← List.getLast?_map, ← List.getLast?_map, directions]
  unfold corners
  rw [directions, last]
  unfold moved
  dsimp only
  rw [List.zip_map_left, List.filter_map, List.map_map, List.map_map]
  rfl

theorem topmost?_moved (vertices : List Vertex) (offset : Vertex) :
    topmost? (vertices.map (·.moved offset)) = (topmost? vertices).map (·.moved offset) := by
  have earlier : forall a b : Vertex, readsBefore (a.moved offset) (b.moved offset) =
      readsBefore a b := by
    intro a b
    simp only [readsBefore, Point.moved, Int.add_lt_add_iff_right, add_left_inj]
  have search : forall (rest : List Vertex) (best : Vertex),
      (rest.map (·.moved offset)).foldl (fun best w => if readsBefore w best then w else best)
          (best.moved offset) =
        (rest.foldl (fun best w => if readsBefore w best then w else best) best).moved offset := by
    intro rest
    induction rest with
    | nil => exact fun _ => rfl
    | cons w rest later =>
        intro best
        rw [List.map_cons, List.foldl_cons, List.foldl_cons, earlier, ← later]
        split <;> rfl
  cases vertices with
  | nil => rfl
  | cons v rest => exact congrArg some (search rest v)

theorem fromTopmost_moved (vertices : List Vertex) (offset : Vertex) :
    fromTopmost (vertices.map (·.moved offset)) = (fromTopmost vertices).map (·.moved offset) := by
  unfold fromTopmost
  rw [topmost?_moved]
  cases topmost? vertices with
  | none => rfl
  | some top =>
      have same : ((fun v => decide (v ≠ top.moved offset)) ∘ fun v : Vertex => v.moved offset) =
          fun v => decide (v ≠ top) := by
        funext v
        simp only [Function.comp_apply, ne_eq, (Point.moved_injective offset).eq_iff]
      simp only [Option.map_some, List.dropWhile_map, List.takeWhile_map, same, List.map_append]

theorem toLoop_moved (chain : Chain) (offset : Vertex) :
    (chain.moved offset).toLoop = chain.toLoop.moved offset := by
  unfold toLoop Loop.moved
  rw [corners_moved, fromTopmost_moved]

end Chain

/-- Joining moved edges makes the moved loops in the same order, or it is found open at
the moved vertex. -/
theorem Loop.ofEdges_moved (edges : List Edge) (offset : Vertex) :
    Outcome.Alike
      (fun fault other => Exists fun v => fault = .ofOpenEnd v ∧ other = .ofOpenEnd (v.moved offset))
      (fun loops others => others = loops.map (·.moved offset))
      (Loop.ofEdges edges) (Loop.ofEdges (edges.map (·.moved offset))) := by
  have chains := Chain.ofEdges_moved edges offset
  unfold Loop.ofEdges
  generalize Chain.ofEdges edges = here at chains
  generalize Chain.ofEdges (edges.map (·.moved offset)) = there at chains
  cases chains with
  | error alike =>
      rw [alike]
      exact .error ⟨_, rfl, rfl⟩
  | ok alike =>
      rw [alike]
      refine .ok ?_
      rw [List.map_map, List.map_map]
      exact List.map_congr_left fun chain _ => chain.toLoop_moved offset

end BattleMap
