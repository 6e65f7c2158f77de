import BattleMap.Proofs.Entrance

namespace BattleMap

/-!
# The order of the edges does not matter

Joining the boundary edges of a mask in any order makes the same loops, only
listed differently: each chain has the edges of an orbit, whichever of them is
visited first, and its loop depends on the orbit alone.  What keeps the orbits
apart is the turn to the right at every vertex where two filled cells meet only
diagonally, so this is stated along with it.
-/

namespace Traced

variable {mask : Mask} {chains others : List Chain}

theorem nodup_loops (traced : Traced mask chains) : (chains.map Chain.toLoop).Nodup := by
  apply traced.nodup_chains.map_on
  intro chain listed other listedOther same
  rcases List.exists_mem_of_ne_nil chain (traced.nonempty chain listed) with ⟨edge, member⟩
  have step := (traced.ends_mem_unitSteps listed).mpr member
  rw [same] at step
  exact traced.eq_of_mem listed listedOther member ((traced.ends_mem_unitSteps listedOther).mp step)

private theorem mem_loops_of_mem_loops (traced : Traced mask chains)
    (tracedOther : Traced mask others) {loop : Loop Int} (member : loop ∈ chains.map Chain.toLoop) :
    loop ∈ others.map Chain.toLoop := by
  rcases List.mem_map.mp member with ⟨chain, listed, rfl⟩
  rcases List.exists_mem_of_ne_nil chain (traced.nonempty chain listed) with ⟨edge, shared⟩
  rcases tracedOther.exists_chain (traced.mem_boundary listed shared) with
    ⟨other, listedOther, sharedOther⟩
  rw [traced.toLoop_eq_of_mem tracedOther listed listedOther shared sharedOther]
  exact List.mem_map_of_mem listedOther

/-- Chains that share out the same boundary have the same loops. -/
theorem perm_loops (traced : Traced mask chains) (tracedOther : Traced mask others) :
    (chains.map Chain.toLoop).Perm (others.map Chain.toLoop) :=
  (List.perm_ext_iff_of_nodup traced.nodup_loops tracedOther.nodup_loops).mpr fun _ =>
    ⟨traced.mem_loops_of_mem_loops tracedOther, tracedOther.mem_loops_of_mem_loops traced⟩

end Traced

/-! ## Turns at a saddle -/

/-- Of the four cells around a vertex two are filled, and these two touch only there. -/
def Mask.IsSaddle (mask : Mask) (v : Vertex) : Prop :=
  (mask.fills (v.x - 1, v.y - 1) = true ∧ mask.fills (v.x, v.y) = true ∧
    mask.fills (v.x, v.y - 1) = false ∧ mask.fills (v.x - 1, v.y) = false) ∨
  (mask.fills (v.x - 1, v.y - 1) = false ∧ mask.fills (v.x, v.y) = false ∧
    mask.fills (v.x, v.y - 1) = true ∧ mask.fills (v.x - 1, v.y) = true)

/-- Whenever a loop comes to a saddle of a mask with a unit step, its next unit step
runs to the right of that one. -/
def Loop.TurnsRightAtSaddles (loop : Loop Int) (mask : Mask) : Prop :=
  forall steps, steps ∈ loop.unitSteps.zip (rotated loop.unitSteps) -> mask.IsSaddle steps.1.2 ->
    Exists fun heading : Direction => steps.1.2 = heading.step steps.1.1 ∧
      steps.2 = (steps.1.2, heading.right.step steps.1.2)

/-- The boundary turns right at a saddle: the filled cell on the right of the edge
that arrives there has none ahead of it. -/
theorem Mask.follow_of_isSaddle {mask : Mask} {edge : Edge} (member : edge ∈ mask.boundary)
    (saddle : mask.IsSaddle edge.finish) :
    mask.follow edge = edge.onward edge.direction.right := by
  have beside := mem_boundary.mp member
  unfold follow
  apply if_pos
  rcases edge with ⟨⟨x, y⟩, direction⟩
  unfold IsSaddle at saddle
  cases direction <;>
    simp only [Edge.finish, Edge.rightCell, Edge.leftCell, Edge.onward, Direction.step,
      Int.add_sub_cancel] at beside saddle ⊢ <;>
    rcases saddle with ⟨nw, se, ne, sw⟩ | ⟨nw, se, ne, sw⟩ <;> simp_all

theorem Traced.turnsRightAtSaddles {mask : Mask} {chains : List Chain} {chain : Chain}
    (traced : Traced mask chains) (listed : chain ∈ chains) :
    chain.toLoop.TurnsRightAtSaddles mask := by
  rcases traced.exists_enters listed with ⟨first, rest, enters⟩
  intro steps member saddle
  rw [enters.unitSteps, ← Loop.map_rotated, List.zip_map,
    Loop.zip_rotated_of_turns enters.turns] at member
  rcases List.mem_map.mp member with ⟨_, pairMember, rfl⟩
  rcases List.mem_map.mp pairMember with ⟨edge, edgeMember, rfl⟩
  have onBoundary := traced.mem_boundary listed (enters.edges.subset edgeMember)
  have next := Mask.follow_of_isSaddle onBoundary saddle
  refine ⟨edge.direction, rfl, ?_⟩
  change (mask.follow edge).ends = _
  rw [next]
  rfl

/-- In whatever order the boundary edges of a mask are joined, the loops are those
of its outline, point by point, in another order.  All of them turn right at
every vertex around which exactly two diagonally opposite cells are filled. -/
theorem Mask.ofEdges_perm_outline {mask : Mask} {edges : List Edge}
    (listed : edges.Perm mask.boundary) :
    Exists fun loops : List (Loop Int) => Exists fun joined : List (Loop Int) =>
      mask.outline = .ok loops ∧ Loop.ofEdges edges = .ok joined ∧ joined.Perm loops ∧
        forall loop, loop ∈ loops -> loop.TurnsRightAtSaddles mask := by
  rcases mask.exists_traced with ⟨chains, outlined, traced⟩
  rcases Chain.exists_traced_of_perm listed with ⟨others, chained, tracedOther⟩
  refine ⟨chains.map Chain.toLoop, others.map Chain.toLoop, outlined,
    Loop.ofEdges_of_chains chained, tracedOther.perm_loops traced, ?_⟩
  intro loop member
  rcases List.mem_map.mp member with ⟨chain, chainListed, rfl⟩
  exact traced.turnsRightAtSaddles chainListed

/-- Two rooms that touch at a corner. -/
def cornerRooms : Mask :=
  .ofFn 2 2 fun x y => x = y

theorem Mask.ofEdges_reverse_cornerRooms :
    cornerRooms.boundary.reverse.Perm cornerRooms.boundary ∧ cornerRooms.IsSaddle ⟨1, 1⟩ ∧
      Exists fun loops : List (Loop Int) => Exists fun joined : List (Loop Int) =>
        cornerRooms.outline = .ok loops ∧ Loop.ofEdges cornerRooms.boundary.reverse = .ok joined ∧
          joined.Perm loops ∧ forall loop, loop ∈ loops -> loop.TurnsRightAtSaddles cornerRooms :=
  ⟨List.reverse_perm _, Or.inl (by decide), ofEdges_perm_outline (List.reverse_perm _)⟩

end BattleMap
