import Mathlib.Data.Int.Cast.Lemmas
import BattleMap.Outline
import BattleMap.Proofs.Paths

namespace BattleMap

/-!
# From chains to corners and back

A chain is turned into a loop by keeping the vertices where it changes its
direction and by turning the list of them to the topmost one.  Nothing is lost:
the unit steps of the loop are the edges of the chain, read from the topmost
corner on.  The argument follows one straight run at a time; the run that wraps
around the end of the list is made whole by entering the chain at a corner.
-/

/-- Two points on a level or on an upright line, the second some steps from the
first in the given direction. -/
def Ahead (direction : Direction) (a b : Vertex) : Prop :=
  Exists fun count : Nat => b = direction.along (count + 1) a

namespace Chain

/-- The direction in which one goes behind a chain that was entered with a given
direction. -/
def headingAfter : Direction -> Chain -> Direction
  | heading, [] => heading
  | _, edge :: rest => headingAfter edge.direction rest

/-- The corners of a chain that is entered with a given direction. -/
def cornersFrom : Direction -> Chain -> List Vertex
  | _, [] => []
  | heading, edge :: rest =>
      if heading = edge.direction then cornersFrom edge.direction rest
      else edge.start :: cornersFrom edge.direction rest

/-- The edges with which a chain that is entered with a given direction changes it. -/
def turningFrom : Direction -> Chain -> Chain
  | _, [] => []
  | heading, edge :: rest =>
      if heading = edge.direction then turningFrom edge.direction rest
      else edge :: turningFrom edge.direction rest

theorem map_start_turningFrom (heading : Direction) (chain : Chain) :
    (turningFrom heading chain).map Edge.start = cornersFrom heading chain := by
  induction chain generalizing heading with
  | nil => rfl
  | cons edge rest later =>
      unfold turningFrom cornersFrom
      split
      · exact later edge.direction
      · exact congrArg _ (later edge.direction)

theorem headingAfter_append (heading : Direction) (a b : Chain) :
    headingAfter heading (a ++ b) = headingAfter (headingAfter heading a) b := by
  induction a generalizing heading with
  | nil => rfl
  | cons edge rest later => exact later edge.direction

theorem cornersFrom_append (heading : Direction) (a b : Chain) :
    cornersFrom heading (a ++ b) = cornersFrom heading a ++ cornersFrom (headingAfter heading a) b := by
  induction a generalizing heading with
  | nil => rfl
  | cons edge rest later =>
      change (if _ then cornersFrom _ (rest ++ b) else _ :: cornersFrom _ (rest ++ b)) =
        (if _ then _ else _) ++ _
      rw [later]
      split <;> rfl

theorem getLast?_direction (edge : Edge) (rest : Chain) :
    (edge :: rest).getLast?.map Edge.direction = some (headingAfter edge.direction rest) := by
  induction rest generalizing edge with
  | nil => rfl
  | cons second rest later =>
      rw [List.getLast?_cons_cons]
      exact later second

private theorem filter_zip_eq_cornersFrom (heading : Direction) (chain : Chain) :
    ((chain.zip (heading :: chain.map Edge.direction)).filter fun pair =>
      pair.2 ≠ pair.1.direction).map (·.1.start) = cornersFrom heading chain := by
  induction chain generalizing heading with
  | nil => rfl
  | cons edge rest later =>
      rw [List.map_cons, List.zip_cons_cons, List.filter_cons]
      unfold cornersFrom
      by_cases straight : heading = edge.direction
      · simp only [straight, ne_eq, not_true_eq_false, decide_false, Bool.false_eq_true, if_false,
          if_true]
        exact later edge.direction
      · simp only [straight, ne_eq, not_false_eq_true, decide_true, if_true, if_false, List.map_cons]
        exact congrArg _ (later edge.direction)

theorem corners_cons (edge : Edge) (rest : Chain) :
    corners (edge :: rest) = cornersFrom (headingAfter edge.direction rest) (edge :: rest) := by
  unfold corners
  rw [getLast?_direction]
  exact filter_zip_eq_cornersFrom _ _

/-! ## The sides between corners -/

/-- The sides of an open polygon that starts at a corner and ends at a vertex,
step by step. -/
theorem flatMap_stepsBetween_cornersFrom (direction : Direction) (count : Nat) (corner last : Vertex)
    (chain : Chain) (leads : Leads (direction.along count corner) chain last) :
    ((corner :: cornersFrom direction chain).zip (cornersFrom direction chain ++ [last])).flatMap
        (fun side => Loop.stepsBetween side.1 side.2) =
      Loop.stepsBetween corner (direction.along count corner) ++ chain.map Edge.ends := by
  induction chain generalizing direction count corner with
  | nil =>
      change direction.along count corner = last at leads
      simp [cornersFrom, leads]
  | cons edge rest later =>
      rcases leads with ⟨start, leads⟩
      unfold cornersFrom
      by_cases straight : direction = edge.direction
      · -- The run goes on: the edge makes its side one step longer.
        subst straight
        have finish : edge.finish = edge.direction.along (count + 1) corner := by
          rw [Edge.finish, start, Direction.along_succ]
        rw [if_pos rfl, later edge.direction (count + 1) corner (finish ▸ leads),
          Loop.stepsBetween_along_succ, ← finish, ← start, List.append_assoc]
        rfl
      · have finish : edge.finish = edge.direction.along 1 edge.start :=
          (Direction.along_one _ _).symm
        rw [if_neg straight, List.cons_append, List.zip_cons_cons, List.flatMap_cons, ← start]
        rw [later edge.direction 1 edge.start (finish ▸ leads), Loop.stepsBetween_along_succ,
          ← finish, Direction.along_zero]
        simp [Loop.stepsBetween, Edge.ends]

/-- Every side of such a polygon runs straight ahead along the edge at its start. -/
theorem ahead_of_mem_zip_turningFrom (corner last : Edge) (count : Nat) (chain : Chain)
    (leads : Leads (corner.direction.along (count + 1) corner.start) chain last.start) :
    forall pair, pair ∈ (corner :: turningFrom corner.direction chain).zip
        (turningFrom corner.direction chain ++ [last]) ->
      Ahead pair.1.direction pair.1.start pair.2.start := by
  generalize heading : corner.direction = direction at leads ⊢
  induction chain generalizing direction count corner with
  | nil =>
      intro pair member
      change direction.along (count + 1) corner.start = last.start at leads
      have same : pair = (corner, last) := by simpa [turningFrom] using member
      rw [same, heading]
      exact ⟨count, leads.symm⟩
  | cons edge rest later =>
      rcases leads with ⟨start, leads⟩
      unfold turningFrom
      by_cases straight : direction = edge.direction
      · subst straight
        rw [if_pos rfl]
        apply later corner (count + 1) _ heading
        rw [Direction.along_succ, ← start]
        exact leads
      · rw [if_neg straight, List.cons_append, List.zip_cons_cons]
        intro pair member
        rcases List.mem_cons.mp member with first | member
        · rw [first, heading]
          exact ⟨count, start⟩
        · apply later edge 0 _ rfl _ pair member
          rw [Direction.along_one]
          exact leads

/-! ## Corners of closed chains -/

theorem exists_edge_of_cornersFrom_eq_append {heading : Direction} {chain : Chain} {v : Vertex}
    {before after : List Vertex} (split : cornersFrom heading chain = before ++ v :: after) :
    Exists fun head : Chain => Exists fun edge : Edge => Exists fun tail : Chain =>
      chain = head ++ edge :: tail ∧ edge.start = v ∧ headingAfter heading head ≠ edge.direction ∧
        cornersFrom heading head = before ∧ cornersFrom edge.direction tail = after := by
  induction chain generalizing heading before with
  | nil => simp [cornersFrom] at split
  | cons edge rest later =>
      unfold cornersFrom at split
      by_cases straight : heading = edge.direction
      · rw [if_pos straight] at split
        rcases later split with ⟨head, corner, tail, equal, start, turned, first, second⟩
        refine ⟨edge :: head, corner, tail, ?_, start, turned, ?_, second⟩
        · rw [equal, List.cons_append]
        · unfold cornersFrom
          rw [if_pos straight]
          exact first
      · rw [if_neg straight] at split
        cases before with
        | nil =>
            have parts := List.cons.inj split
            exact ⟨[], edge, rest, rfl, parts.1, straight, rfl, parts.2⟩
        | cons first before =>
            have parts := List.cons.inj split
            rcases later parts.2 with ⟨head, corner, tail, equal, start, turned, first', second⟩
            refine ⟨edge :: head, corner, tail, ?_, start, turned, ?_, second⟩
            · rw [equal, List.cons_append]
            · unfold cornersFrom
              rw [if_neg straight, first', parts.1]

/-- A change of direction between two successive edges is a corner, also from the
last edge to the first. -/
theorem start_mem_corners {first second : Edge} {chain : Chain}
    (successive : (first, second) ∈ chain.zip (Loop.rotated chain))
    (turned : first.direction ≠ second.direction) : second.start ∈ chain.corners := by
  have general : forall (rest : Chain) (edge last : Edge),
      (first, second) ∈ (edge :: rest).zip (rest ++ [last]) ->
      second.start ∈ cornersFrom edge.direction (rest ++ [last]) := by
    intro rest
    induction rest with
    | nil =>
        intro edge last member
        have same : first = edge ∧ second = last := by simpa using member
        rw [same.1, same.2] at turned
        rw [same.2, List.nil_append]
        unfold cornersFrom
        rw [if_neg turned]
        exact List.mem_cons_self
    | cons next rest later =>
        intro edge last member
        rw [List.cons_append, List.zip_cons_cons] at member
        rw [List.cons_append]
        unfold cornersFrom
        rcases List.mem_cons.mp member with same | member
        · have parts := Prod.mk.inj same
          rw [parts.1, parts.2] at turned
          rw [parts.2, if_neg turned]
          exact List.mem_cons_self
        · split
          · exact later next last member
          · exact List.mem_cons_of_mem _ (later next last member)
  cases chain with
  | nil => cases successive
  | cons edge rest =>
      have member := general rest edge edge successive
      rw [cornersFrom_append] at member
      have split : (edge :: rest : Chain) = [edge] ++ rest := rfl
      rw [corners_cons, split, cornersFrom_append]
      exact List.mem_append.mpr (List.mem_append.mp member).symm

theorem direction_of_cornersFrom_eq_nil {heading : Direction} {chain : Chain}
    (none : cornersFrom heading chain = []) :
    forall edge, edge ∈ chain -> edge.direction = heading := by
  induction chain generalizing heading with
  | nil =>
      intro edge member
      cases member
  | cons next chain later =>
      intro edge member
      unfold cornersFrom at none
      by_cases same : heading = next.direction
      · rw [if_pos same] at none
        rcases List.mem_cons.mp member with equal | member
        · rw [equal, same]
        · rw [same]
          exact later none edge member
      · rw [if_neg same] at none
        cases none

/-- A closed chain that goes on in the direction of its first edge never comes
back, so it has a corner behind that edge. -/
theorem cornersFrom_ne_nil {edge : Edge} {rest : Chain}
    (leads : Leads edge.start (edge :: rest) edge.start) :
    cornersFrom edge.direction rest ≠ [] := by
  intro none
  have straight : forall other, other ∈ edge :: rest -> other.direction = edge.direction := by
    intro other member
    rcases List.mem_cons.mp member with same | member
    · rw [same]
    · exact direction_of_cornersFrom_eq_nil none other member
  have back := along_of_leads (edge :: rest) leads straight
  rw [List.length_cons] at back
  exact Direction.along_succ_ne _ _ _ back.symm

/-- A closed chain changes its direction somewhere. -/
theorem corners_ne_nil {chain : Chain} (closed : chain.Closed) (nonempty : chain ≠ []) :
    chain.corners ≠ [] := by
  cases chain with
  | nil => exact absurd rfl nonempty
  | cons first rest =>
      rw [corners_cons]
      unfold cornersFrom
      split
      · exact cornersFrom_ne_nil closed.leads
      · exact List.cons_ne_nil _ _

/-! ## The topmost corner -/

theorem readsBefore_eq_false_iff {a b : Vertex} :
    readsBefore a b = false ↔ b.y < a.y ∨ (b.y = a.y ∧ b.x ≤ a.x) := by
  simp only [readsBefore, Bool.or_eq_false_iff, Bool.and_eq_false_iff, decide_eq_false_iff_not]
  omega

theorem readsBefore_self (v : Vertex) : readsBefore v v = false :=
  readsBefore_eq_false_iff.mpr (Or.inr ⟨rfl, Int.le_refl _⟩)

theorem readsBefore_asymm {a b : Vertex} (before : readsBefore a b = true) :
    readsBefore b a = false := by
  simp only [readsBefore, Bool.or_eq_true, Bool.and_eq_true, decide_eq_true_eq] at before
  rw [readsBefore_eq_false_iff]
  omega

theorem readsBefore_cotrans {a b c : Vertex} (first : readsBefore b a = false)
    (second : readsBefore c b = false) : readsBefore c a = false := by
  rw [readsBefore_eq_false_iff] at first second ⊢
  omega

/-- The search for the topmost vertex finds one before which no other reads. -/
private theorem topmost_of_foldl (vertices : List Vertex) (best : Vertex) :
    let top := vertices.foldl (fun best w => if readsBefore w best then w else best) best
    top ∈ best :: vertices ∧ forall v, v ∈ best :: vertices -> readsBefore v top = false := by
  induction vertices generalizing best with
  | nil =>
      refine ⟨List.mem_cons_self, ?_⟩
      intro v member
      rw [List.mem_singleton.mp member]
      exact readsBefore_self best
  | cons w rest later =>
      rw [List.foldl_cons]
      cases earlier : readsBefore w best with
      | true =>
          have found := later w
          simp only [if_true] at found ⊢
          refine ⟨List.mem_cons_of_mem _ found.1, List.forall_mem_cons.mpr ⟨?_, found.2⟩⟩
          exact readsBefore_cotrans (found.2 w List.mem_cons_self) (readsBefore_asymm earlier)
      | false =>
          have found := later best
          have bound := List.forall_mem_cons.mp found.2
          simp only [Bool.false_eq_true, if_false] at found bound ⊢
          refine ⟨(List.sublist_cons_self w rest).cons_cons best |>.subset found.1, ?_⟩
          refine List.forall_mem_cons.mpr ⟨bound.1, List.forall_mem_cons.mpr ⟨?_, bound.2⟩⟩
          exact readsBefore_cotrans bound.1 earlier

private theorem exists_dropWhile_eq_cons {vertices : List Vertex} {top : Vertex}
    (member : top ∈ vertices) :
    Exists fun after => vertices.dropWhile (· ≠ top) = top :: after := by
  induction vertices with
  | nil => cases member
  | cons v rest later =>
      by_cases same : v = top
      · subst same
        exact ⟨rest, List.dropWhile_cons_of_neg (by simp)⟩
      · rcases List.mem_cons.mp member with equal | member
        · exact absurd equal.symm same
        · rw [List.dropWhile_cons_of_pos (by simpa using same)]
          exact later member

/-- Turning a list of vertices to its topmost one cuts it in two. -/
theorem fromTopmost_eq {vertices : List Vertex} (nonempty : vertices ≠ []) :
    Exists fun top : Vertex => Exists fun before => Exists fun after =>
      vertices = before ++ top :: after ∧ fromTopmost vertices = top :: (after ++ before) ∧
        forall v, v ∈ vertices -> readsBefore v top = false := by
  cases vertices with
  | nil => exact absurd rfl nonempty
  | cons v rest =>
      have found := topmost_of_foldl rest v
      generalize top_eq : rest.foldl (fun best w => if readsBefore w best then w else best) v = top
        at found
      have turned : fromTopmost (v :: rest) = (v :: rest).dropWhile (· ≠ top) ++
          (v :: rest).takeWhile (· ≠ top) := by
        rw [← top_eq]
        rfl
      have joined := List.takeWhile_append_dropWhile (p := (· ≠ top)) (l := v :: rest)
      rcases exists_dropWhile_eq_cons found.1 with ⟨after, dropped⟩
      rw [dropped] at turned joined
      refine ⟨top, (v :: rest).takeWhile (· ≠ top), after, joined.symm, ?_, found.2⟩
      rw [turned, List.cons_append]

/-- The loop of a closed chain starts at a corner before which no other one
reads, and it has the corners of the chain entered there. -/
theorem exists_entry {chain : Chain} (closed : chain.Closed) (nonempty : chain ≠ []) :
    Exists fun before : Chain => Exists fun edge : Edge => Exists fun after : Chain =>
      chain = before ++ edge :: after ∧
        headingAfter edge.direction (after ++ before) ≠ edge.direction ∧
        chain.toLoop.points = edge.start :: cornersFrom edge.direction (after ++ before) ∧
        forall v, v ∈ chain.corners -> readsBefore v edge.start = false := by
  rcases fromTopmost_eq (corners_ne_nil closed nonempty) with ⟨top, head, tail, split, turned, first⟩
  cases chain with
  | nil => exact absurd rfl nonempty
  | cons one rest =>
      rw [corners_cons] at split
      rcases exists_edge_of_cornersFrom_eq_append split with
        ⟨before, edge, after, equal, start, turns, cornersBefore, cornersAfter⟩
      have wraps : headingAfter one.direction rest = headingAfter edge.direction after := by
        have whole : headingAfter one.direction (one :: rest) =
            headingAfter one.direction (before ++ edge :: after) := by rw [equal]
        rw [headingAfter_append] at whole
        exact whole
      refine ⟨before, edge, after, equal, ?_, ?_, ?_⟩
      · rw [headingAfter_append, ← wraps]
        exact turns
      · change fromTopmost _ = _
        rw [turned, start, cornersFrom_append, cornersAfter, ← wraps, cornersBefore]
      · intro v member
        rw [start]
        exact first v member

/-- The sides of a loop that has the corners of a chain run from each edge at
which the chain turns to the next one. -/
theorem sides_of_points {loop : Loop Int} {edge : Edge} {rest : Chain}
    (points : loop.points = edge.start :: cornersFrom edge.direction rest) :
    loop.sides = ((edge :: turningFrom edge.direction rest).zip
      (Loop.rotated (edge :: turningFrom edge.direction rest))).map
        fun pair => (pair.1.start, pair.2.start) := by
  have starts : loop.points = (edge :: turningFrom edge.direction rest).map Edge.start := by
    rw [points, List.map_cons, map_start_turningFrom]
  unfold Loop.sides
  rw [starts, ← Loop.map_rotated, List.zip_map]
  rfl

/-- The sides of the loop of a closed chain are straight. -/
theorem ahead_of_mem_sides {chain : Chain} (closed : chain.Closed) (nonempty : chain ≠ [])
    {side : Vertex × Vertex} (member : side ∈ chain.toLoop.sides) :
    Exists fun heading => Ahead heading side.1 side.2 := by
  rcases exists_entry closed nonempty with ⟨before, edge, after, equal, _, points, _⟩
  subst equal
  rw [sides_of_points points] at member
  rcases List.mem_map.mp member with ⟨pair, pairMember, rfl⟩
  refine ⟨_, ahead_of_mem_zip_turningFrom edge edge 0 _ ?_ pair pairMember⟩
  rw [Direction.along_one]
  exact closed.leads_from.2

/-- If a loop has the corners of a closed chain from a corner on, its unit steps
are the edges of the chain. -/
theorem unitSteps_of_points {loop : Loop Int} {edge : Edge} {rest : Chain}
    (points : loop.points = edge.start :: cornersFrom edge.direction rest)
    (leads : Leads edge.start (edge :: rest) edge.start) :
    loop.unitSteps = (edge :: rest).map Edge.ends := by
  have first : edge.direction.along 1 edge.start = edge.finish := Direction.along_one _ _
  unfold Loop.unitSteps Loop.sides
  rw [points]
  change List.flatMap _ ((edge.start :: cornersFrom edge.direction rest).zip
    (cornersFrom edge.direction rest ++ [edge.start])) = _
  rw [flatMap_stepsBetween_cornersFrom edge.direction 1 edge.start edge.start _ (first ▸ leads.2),
    Loop.stepsBetween_along_succ, Direction.along_zero, first]
  simp [Loop.stepsBetween, Edge.ends]

/-- The unit steps of the loop of a closed chain are its edges, from the topmost
corner on. -/
theorem exists_unitSteps_toLoop {chain : Chain} (closed : chain.Closed) (nonempty : chain ≠ []) :
    Exists fun before : Chain => Exists fun after : Chain =>
      chain = before ++ after ∧ chain.toLoop.unitSteps = (after ++ before).map Edge.ends := by
  rcases exists_entry closed nonempty with ⟨before, edge, after, equal, _, points, _⟩
  exact ⟨before, edge :: after, equal,
    unitSteps_of_points points (Closed.leads_from (equal ▸ closed))⟩

/-- What adds up along straight lines has the same sum over straight sides as over
their unit steps. -/
theorem sum_eq_sum_stepsBetween (f : Vertex -> Vertex -> Int) (still : forall v, f v v = 0)
    (adds : forall (direction : Direction) (count : Nat) (v : Vertex),
      f v (direction.along (count + 1) v) =
        f v (direction.along count v) +
          f (direction.along count v) (direction.along (count + 1) v))
    {sides : List (Vertex × Vertex)}
    (straight : forall side, side ∈ sides -> Exists fun heading => Ahead heading side.1 side.2) :
    (sides.map fun side => f side.1 side.2).sum =
      ((sides.flatMap fun side => Loop.stepsBetween side.1 side.2).map
        fun side => f side.1 side.2).sum := by
  have stretch : forall (direction : Direction) (count : Nat) (v : Vertex),
      ((Loop.stepsBetween v (direction.along count v)).map fun side => f side.1 side.2).sum =
        f v (direction.along count v) := by
    intro direction count v
    induction count with
    | zero => simp [Loop.stepsBetween, still]
    | succ count shorter =>
        rw [Loop.stepsBetween_along_succ, List.map_append, List.sum_append, shorter, adds]
        simp
  induction sides with
  | nil => rfl
  | cons side rest later =>
      rcases straight side List.mem_cons_self with ⟨heading, count, finish⟩
      rw [List.map_cons, List.sum_cons, List.flatMap_cons, List.map_append, List.sum_append,
        later fun side member => straight side (List.mem_cons_of_mem _ member), finish, stretch]

/-- What adds up along straight lines has the same sum over the sides of a loop
as over the edges of its chain. -/
theorem sum_sides_toLoop {chain : Chain} (closed : chain.Closed) (nonempty : chain ≠ [])
    (f : Vertex -> Vertex -> Int) (still : forall v, f v v = 0)
    (adds : forall (direction : Direction) (count : Nat) (v : Vertex),
      f v (direction.along (count + 1) v) =
        f v (direction.along count v) +
          f (direction.along count v) (direction.along (count + 1) v)) :
    (chain.toLoop.sides.map fun side => f side.1 side.2).sum =
      (chain.map fun edge => f edge.start edge.finish).sum := by
  rcases exists_unitSteps_toLoop closed nonempty with ⟨before, after, equal, steps⟩
  unfold Loop.unitSteps at steps
  rw [sum_eq_sum_stepsBetween f still adds fun _ member => ahead_of_mem_sides closed nonempty member,
    steps, equal, List.map_map, List.map_append, List.sum_append, List.map_append, List.sum_append,
    Int.add_comm]
  rfl

end Chain
end BattleMap
