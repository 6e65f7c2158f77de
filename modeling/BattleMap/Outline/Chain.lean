import BattleMap.Outline.EdgePool

namespace BattleMap

/-!
# Chaining edges

Directed edges are joined into closed chains.  A chain starts with the first
edge that is left and goes on at its end with an edge that starts there.  Where
several do, it turns right if it can, goes straight otherwise, and turns left
last: turning right keeps cells apart that touch only at a corner.  It never
turns back.  A chain closes when its own first edge would be the next; that may
happen only after it has passed its start several times.

Every edge that is taken is removed from the edges that are left, so each edge
lands in exactly one chain and the walk ends.
-/

/-- The edges of a chain, in the order in which they are walked. -/
abbrev Chain := List Edge

namespace Chain

/-- The directions in which a chain may go on, the preferred one first. -/
def preferences (heading : Direction) : List Direction :=
  [heading.right, heading, heading.left]

/-- The edge with which a chain that started with `first` goes on behind `last`.
The first edge counts among the possible ones, although it is already taken:
choosing it closes the chain. -/
def next? (first last : Edge) (unused : EdgePool) : Option Edge :=
  ((preferences last.direction).map fun direction => (⟨last.finish, direction⟩ : Edge)).find?
    fun edge => edge = first || unused.contains edge

theorem contains_of_next?_eq_some {first last edge : Edge} {unused : EdgePool}
    (found : next? first last unused = some edge) (goesOn : edge ≠ first) :
    unused.contains edge = true := by
  have chosen := List.find?_some found
  simpa [goesOn] using chosen

/-- Walk on behind `last` until the chain closes.  The edges walked so far are
given with the latest one first.  The result is the whole chain and the edges
that are left; a chain that can neither go on nor close fails at the vertex
where it stands. -/
def walk (first last : Edge) (walked : Chain) (unused : EdgePool) :
    Except Vertex (Chain × EdgePool) :=
  match _found : next? first last unused with
  | none => .error last.finish
  | some edge =>
      if _goesOn : edge = first then .ok (walked.reverse, unused)
      else walk first edge (edge :: walked) (unused.take edge)
termination_by unused.size
decreasing_by
  exact EdgePool.size_take_lt (contains_of_next?_eq_some _found _goesOn)

/-- Add the chain that starts with an edge.  An edge that is no longer left was
part of an earlier chain.  The latest chain comes first. -/
def addChain (made : List Chain × EdgePool) (edge : Edge) :
    Except Vertex (List Chain × EdgePool) :=
  match made with
  | (chains, unused) =>
      if unused.contains edge then do
        let (chain, left) ← walk edge edge [edge] (unused.take edge)
        return (chain :: chains, left)
      else return (chains, unused)

/-- All edges joined into chains, in the order of their first edges. -/
def ofEdges (edges : List Edge) : Except Vertex (List Chain) := do
  let (chains, _) ← edges.foldlM addChain ([], EdgePool.ofList edges)
  return chains.reverse

end Chain
end BattleMap
