import BattleMap.Proofs.Area
import BattleMap.Proofs.Entrance
import BattleMap.Proofs.Succession

namespace BattleMap

/-!
# The form of traced loops

Of the edges of a chain the loop keeps those with which the chain turns.  A chain
never turns back, so each of these runs across the one before it, and the sides
of the loop, which run along them, are level and upright in turn.  So there are as
many level sides as upright ones, and at least two of each kind.  Since the chain
passes its topmost vertex only once, no other corner reads as early as the first
one.
-/

namespace Direction

/-- Whether a direction runs along a row. -/
def isLevel : Direction -> Bool
  | .east | .west => true
  | .south | .north => false

@[simp] theorem isLevel_right (direction : Direction) :
    direction.right.isLevel = !direction.isLevel := by
  cases direction <;> rfl

@[simp] theorem isLevel_left (direction : Direction) :
    direction.left.isLevel = !direction.isLevel := by
  cases direction <;> rfl

end Direction

/-- Straight ahead in a level direction lies exactly what has the same height. -/
theorem Ahead.level_iff {heading : Direction} {a b : Vertex} (ahead : Ahead heading a b) :
    (a.y = b.y ↔ heading.isLevel = true) ∧ (a.x = b.x ↔ heading.isLevel = false) := by
  rcases ahead with ⟨count, rfl⟩
  cases heading <;>
    simp only [Direction.along, Direction.dx, Direction.dy, Direction.isLevel, reduceCtorEq, iff_true,
      iff_false] <;> omega

theorem Mask.isLevel_follow {mask : Mask} {edge : Edge}
    (turned : edge.direction ≠ (mask.follow edge).direction) :
    (mask.follow edge).direction.isLevel = !edge.direction.isLevel := by
  rcases mask.follow_cases edge with ⟨_, next⟩ | ⟨_, _, next⟩ | ⟨_, _, next⟩
  · rw [next, Edge.onward_direction, Direction.isLevel_right]
  · rw [next, Edge.onward_direction] at turned
    exact absurd rfl turned
  · rw [next, Edge.onward_direction, Direction.isLevel_left]

/-- The edges with which an orbit turns run along rows and columns in turn.  The edge
`corner` is the latest of them, and `current` is where the orbit stands. -/
theorem Chain.isLevel_of_mem_zip_turningFrom {mask : Mask} {chain : Chain} {last : Edge}
    (corner current : Edge) (same : corner.direction = current.direction)
    (path : (current :: chain).map mask.follow = chain ++ [last])
    (turned : headingAfter current.direction chain ≠ last.direction) :
    forall pair, pair ∈ (corner :: turningFrom current.direction chain).zip
        (turningFrom current.direction chain ++ [last]) ->
      pair.2.direction.isLevel = !pair.1.direction.isLevel := by
  induction chain generalizing corner current with
  | nil =>
      intro pair member
      have both : pair = (corner, last) := by simpa [turningFrom] using member
      have next : mask.follow current = last := (List.cons.inj path).1
      change current.direction ≠ last.direction at turned
      rw [both, same, ← next]
      rw [← next] at turned
      exact Mask.isLevel_follow turned
  | cons edge rest later =>
      have parts := List.cons.inj path
      have next : mask.follow current = edge := parts.1
      unfold turningFrom
      by_cases straight : current.direction = edge.direction
      · rw [if_pos straight]
        exact later corner edge (same.trans straight) parts.2 turned
      · rw [if_neg straight, List.cons_append, List.zip_cons_cons]
        refine List.forall_mem_cons.mpr ⟨?_, later edge edge rfl parts.2 turned⟩
        rw [← next] at straight ⊢
        rw [same]
        exact Mask.isLevel_follow straight

/-- What is expected of a loop that is traced on a grid of the given size: an even number
of corners on the grid, of which the first reads strictly before all others, and sides
of which each changes one coordinate, level and upright ones in turn. -/
structure Loop.IsCanonical (loop : Loop Int) (width height : Nat) : Prop where
  even : loop.points.length % 2 = 0
  four_le : 4 ≤ loop.points.length
  within : forall v, v ∈ loop.points -> (0 ≤ v.x ∧ v.x ≤ width) ∧ 0 ≤ v.y ∧ v.y ≤ height
  straight : forall side, side ∈ loop.sides ->
    (side.1.x = side.2.x ∧ side.1.y ≠ side.2.y) ∨ (side.1.x ≠ side.2.x ∧ side.1.y = side.2.y)
  alternates : forall sides, sides ∈ loop.sides.zip (rotated loop.sides) ->
    (sides.1.1.y = sides.1.2.y ↔ sides.2.1.x = sides.2.2.x)
  first : Exists fun top => Exists fun others => loop.points = top :: others ∧
    forall v, v ∈ others -> top.y < v.y ∨ (top.y = v.y ∧ top.x < v.x)

namespace Enters

variable {mask : Mask} {chain rest : Chain} {first : Edge}

/-- The edges at which the loop of a chain has its corners. -/
abbrev corners (first : Edge) (rest : Chain) : Chain :=
  first :: Chain.turningFrom first.direction rest

theorem points_eq (enters : Enters mask chain first rest) :
    chain.toLoop.points = (corners first rest).map Edge.start := by
  rw [enters.points, List.map_cons, Chain.map_start_turningFrom]

theorem sides_eq (enters : Enters mask chain first rest) :
    chain.toLoop.sides = ((corners first rest).zip (Loop.rotated (corners first rest))).map
      fun pair => (pair.1.start, pair.2.start) :=
  Chain.sides_of_points enters.points

theorem isLevel_of_mem (enters : Enters mask chain first rest) (pair : Edge × Edge)
    (member : pair ∈ (corners first rest).zip (Loop.rotated (corners first rest))) :
    pair.2.direction.isLevel = !pair.1.direction.isLevel :=
  Chain.isLevel_of_mem_zip_turningFrom first first rfl enters.turns enters.corner pair member

theorem even_length_corners (enters : Enters mask chain first rest) :
    (corners first rest).length % 2 = 0 :=
  Loop.even_length_of_alternates (fun edge => edge.direction.isLevel) enters.isLevel_of_mem

/-- Two corners are not enough: the way back would have to run along the way there. -/
theorem four_le_length_corners (enters : Enters mask chain first rest) :
    4 ≤ (corners first rest).length := by
  have even := enters.even_length_corners
  have level := enters.isLevel_of_mem
  have ahead := enters.ahead
  unfold corners at even level ⊢
  generalize Chain.turningFrom first.direction rest = turning at even level ahead ⊢
  rcases turning with _ | ⟨second, _ | ⟨third, others⟩⟩
  · cases even
  · have there := (ahead (first, second) List.mem_cons_self).level_iff
    have back := (ahead (second, first) (List.mem_cons_of_mem _ List.mem_cons_self)).level_iff
    have crosses := level (first, second) List.mem_cons_self
    dsimp only at there back crosses
    rw [crosses] at back
    cases heading : first.direction.isLevel with
    | true => exact absurd (back.1.mp (there.1.mpr heading).symm) (by rw [heading]; decide)
    | false => exact absurd (back.2.mp (there.2.mpr heading).symm) (by rw [heading]; decide)
  · simp only [List.length_cons] at even ⊢
    omega

end Enters

namespace Traced

variable {mask : Mask} {chains : List Chain} {chain : Chain}

/-- No other corner of a loop reads as early as the first one. -/
theorem reads_after_first (traced : Traced mask chains) (listed : chain ∈ chains) {first : Edge}
    {rest : Chain} (enters : Enters mask chain first rest) {v : Vertex}
    (member : v ∈ Chain.cornersFrom first.direction rest) :
    first.start.y < v.y ∨ (first.start.y = v.y ∧ first.start.x < v.x) := by
  rcases Chain.exists_start_of_mem_cornersFrom member with ⟨edge, behind, rfl⟩
  have inChain := enters.edges.subset (List.mem_cons_of_mem _ behind)
  have distinct := enters.edges.nodup_iff.mpr (traced.nodup listed)
  have elsewhere : edge.start ≠ first.start := by
    intro same
    have again := traced.eq_of_topmost listed enters.mem inChain enters.topmost same
    exact (List.nodup_cons.mp distinct).1 (again ▸ behind)
  have order := Chain.readsBefore_eq_false_iff.mp (enters.topmost edge inChain)
  rcases edge with ⟨⟨x, y⟩, direction⟩
  rcases first with ⟨⟨u, v⟩, heading⟩
  simp only [ne_eq, Point.mk.injEq] at elsewhere order ⊢
  omega

theorem isCanonical (traced : Traced mask chains) (listed : chain ∈ chains) :
    chain.toLoop.IsCanonical mask.width mask.height := by
  rcases traced.exists_enters listed with ⟨first, rest, enters⟩
  refine {
    even := ?_
    four_le := ?_
    within := fun _ member => traced.bounds_of_mem_points listed member
    straight := ?_
    alternates := ?_
    first := ⟨_, _, enters.points, fun _ member => traced.reads_after_first listed enters member⟩ }
  · rw [enters.points_eq, List.length_map]
    exact enters.even_length_corners
  · rw [enters.points_eq, List.length_map]
    exact enters.four_le_length_corners
  · intro side member
    rw [enters.sides_eq] at member
    rcases List.mem_map.mp member with ⟨pair, pairMember, rfl⟩
    have along := (enters.ahead _ pairMember).level_iff
    dsimp only
    rw [ne_eq, ne_eq, along.1, along.2]
    cases pair.1.direction.isLevel <;> decide
  · intro sides member
    rw [enters.sides_eq, ← Loop.map_rotated, List.zip_map] at member
    rcases List.mem_map.mp member with ⟨pairs, pairsMember, rfl⟩
    have parts := List.of_mem_zip pairsMember
    have along := (enters.ahead _ parts.1).level_iff
    have across := (enters.ahead _ (Loop.mem_rotated.mp parts.2)).level_iff
    have crosses := enters.isLevel_of_mem _ (Loop.mem_zip_rotated_of_pairs pairsMember)
    dsimp only [Prod.map] at crosses ⊢
    rw [along.1, across.2, crosses, Bool.not_eq_false']

end Traced

/-- The place in the boundary of a mask where a unit step of a loop is listed for the
first time. -/
def Mask.firstListed (mask : Mask) (loop : Loop Int) : Nat :=
  mask.boundary.findIdx fun edge => edge.ends ∈ loop.unitSteps

theorem Traced.firstListed_toLoop {mask : Mask} {chains : List Chain} {chain : Chain}
    (traced : Traced mask chains) (listed : chain ∈ chains) :
    mask.firstListed chain.toLoop = Chain.earliest mask.boundary chain := by
  unfold Mask.firstListed Chain.earliest
  simp only [traced.ends_mem_unitSteps listed]

/-- The loops of an outline have the form that is expected of them, and they are
listed in the order of their earliest boundary edges. -/
theorem Mask.outline_isCanonical (mask : Mask) :
    Exists fun loops : List (Loop Int) => mask.outline = .ok loops ∧
      (forall loop, loop ∈ loops -> loop.IsCanonical mask.width mask.height) ∧
      (forall loop, loop ∈ loops -> mask.firstListed loop < mask.boundary.length) ∧
      loops.Pairwise fun sooner later => mask.firstListed sooner < mask.firstListed later := by
  rcases Chain.exists_traced_of_perm (List.Perm.refl mask.boundary) with ⟨chains, chained, traced⟩
  rcases Chain.pairwise_earliest mask.nodup_boundary chained with ⟨begun, ordered⟩
  refine ⟨chains.map Chain.toLoop, Loop.ofEdges_of_chains chained, ?_, ?_, ?_⟩
  · intro loop member
    rcases List.mem_map.mp member with ⟨chain, listed, rfl⟩
    exact traced.isCanonical listed
  · intro loop member
    rcases List.mem_map.mp member with ⟨chain, listed, rfl⟩
    rw [traced.firstListed_toLoop listed]
    exact begun chain listed
  · rw [List.pairwise_map]
    apply ordered.imp_of_mem
    intro sooner later listed listedLater order
    rw [traced.firstListed_toLoop listed, traced.firstListed_toLoop listedLater]
    exact order

end BattleMap
