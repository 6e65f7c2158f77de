import BattleMap.Outline.Chain
import BattleMap.Proofs.Boundary

namespace BattleMap

/-!
# Following the boundary

The two cells ahead of a boundary edge decide where the boundary goes on if
right turns are preferred: around the right cell if the cell ahead on the right
is not filled, straight on along that cell if only it is filled, and otherwise
around the left cell.  So a boundary edge always has a successor, and at a
vertex where two filled cells meet only diagonally the two arriving edges have
different ones.  Chains that take the preferred edge therefore run through the
orbits of a one-to-one map.
-/

namespace Mask

variable {mask : Mask} {a b edge : Edge}

/-- The boundary edge that comes behind a given one. -/
def follow (mask : Mask) (edge : Edge) : Edge :=
  if mask.fills (edge.onward edge.direction).rightCell = false then
    edge.onward edge.direction.right
  else if mask.fills (edge.onward edge.direction).leftCell = false then
    edge.onward edge.direction
  else edge.onward edge.direction.left

/-- The three ways to go on, each with what it says about the cells ahead. -/
theorem follow_cases (mask : Mask) (edge : Edge) :
    (mask.fills (edge.onward edge.direction).rightCell = false ∧
      mask.follow edge = edge.onward edge.direction.right) ∨
    (mask.fills (edge.onward edge.direction).rightCell = true ∧
      mask.fills (edge.onward edge.direction).leftCell = false ∧
      mask.follow edge = edge.onward edge.direction) ∨
    (mask.fills (edge.onward edge.direction).rightCell = true ∧
      mask.fills (edge.onward edge.direction).leftCell = true ∧
      mask.follow edge = edge.onward edge.direction.left) := by
  unfold follow
  cases right : mask.fills (edge.onward edge.direction).rightCell with
  | false => exact Or.inl ⟨rfl, if_pos rfl⟩
  | true =>
      cases left : mask.fills (edge.onward edge.direction).leftCell with
      | false => exact Or.inr (Or.inl ⟨rfl, rfl, rfl⟩)
      | true => exact Or.inr (Or.inr ⟨rfl, rfl, rfl⟩)

@[simp] theorem follow_start (mask : Mask) (edge : Edge) :
    (mask.follow edge).start = edge.finish := by
  rcases mask.follow_cases edge with ⟨_, next⟩ | ⟨_, _, next⟩ | ⟨_, _, next⟩ <;>
    rw [next, Edge.onward_start]

theorem follow_direction_ne_opposite (mask : Mask) (edge : Edge) :
    (mask.follow edge).direction ≠ edge.direction.opposite := by
  rcases mask.follow_cases edge with ⟨_, next⟩ | ⟨_, _, next⟩ | ⟨_, _, next⟩ <;>
    rw [next, Edge.onward_direction] <;> cases edge.direction <;> decide

theorem follow_mem_boundary (member : edge ∈ mask.boundary) :
    mask.follow edge ∈ mask.boundary := by
  have beside := mem_boundary.mp member
  apply mem_boundary.mpr
  rcases mask.follow_cases edge with ⟨right, next⟩ | ⟨right, left, next⟩ | ⟨_, left, next⟩
  · rw [next, Edge.rightCell_onward_right, Edge.leftCell_onward_right]
    exact ⟨beside.1, right⟩
  · rw [next]
    exact ⟨right, left⟩
  · rw [next, Edge.rightCell_onward_left, Edge.leftCell_onward_left]
    exact ⟨left, beside.2⟩

theorem right_turn_not_mem_boundary
    (ahead : mask.fills (edge.onward edge.direction).rightCell = true) :
    edge.onward edge.direction.right ∉ mask.boundary := by
  intro member
  have free := (mem_boundary.mp member).2
  rw [Edge.leftCell_onward_right, ahead] at free
  exact absurd free.symm Bool.false_ne_true

private theorem leftCell_eq_rightCell_of_right_turn (sameFinish : a.finish = b.finish)
    (turned : b.direction = a.direction.right) : a.leftCell = b.rightCell := by
  rcases a with ⟨⟨ax, ay⟩, aDirection⟩
  rcases b with ⟨⟨bx, bY⟩, bDirection⟩
  cases turned
  cases aDirection <;>
    simp only [Edge.finish, Direction.step, Point.mk.injEq] at sameFinish <;>
    simp only [Edge.leftCell, Edge.rightCell, Prod.mk.injEq] <;> omega

private theorem leftCell_eq_rightCell_onward_of_opposite (sameFinish : a.finish = b.finish)
    (opposed : b.direction = a.direction.opposite) :
    a.leftCell = (b.onward b.direction).rightCell := by
  rcases a with ⟨⟨ax, ay⟩, aDirection⟩
  rcases b with ⟨⟨bx, bY⟩, bDirection⟩
  cases opposed
  cases aDirection <;>
    simp only [Edge.finish, Direction.step, Point.mk.injEq] at sameFinish <;>
    simp only [Edge.leftCell, Edge.rightCell, Edge.onward, Edge.finish, Direction.step,
      Prod.mk.injEq] <;> omega

private theorem no_right_turn_between (memberA : a ∈ mask.boundary) (memberB : b ∈ mask.boundary)
    (sameFinish : a.finish = b.finish) : b.direction ≠ a.direction.right := by
  intro turned
  have shared := leftCell_eq_rightCell_of_right_turn sameFinish turned
  have free := (mem_boundary.mp memberA).2
  rw [shared, (mem_boundary.mp memberB).1] at free
  exact absurd free.symm Bool.false_ne_true

private theorem right_ne_left_of_follow (memberA : a ∈ mask.boundary)
    (sameFinish : a.finish = b.finish)
    (ahead : mask.fills (b.onward b.direction).rightCell = true) :
    a.direction.right ≠ b.direction.left := by
  intro same
  have opposed : b.direction = a.direction.opposite := by
    revert same
    cases a.direction <;> cases b.direction <;> decide
  have shared := leftCell_eq_rightCell_onward_of_opposite sameFinish opposed
  have free := (mem_boundary.mp memberA).2
  rw [shared, ahead] at free
  exact absurd free.symm Bool.false_ne_true

/-- Different boundary edges go on differently.  The cell behind the new edge
tells which turn led to it, also where two arriving edges compete. -/
theorem follow_injective (memberA : a ∈ mask.boundary) (memberB : b ∈ mask.boundary)
    (same : mask.follow a = mask.follow b) : a = b := by
  have sameFinish : a.finish = b.finish := by
    rw [← mask.follow_start a, ← mask.follow_start b, same]
  have turn := congrArg Edge.direction same
  have undoRight : a.direction.right = b.direction.right -> a.direction = b.direction := by
    cases a.direction <;> cases b.direction <;> decide
  have undoLeft : a.direction.left = b.direction.left -> a.direction = b.direction := by
    cases a.direction <;> cases b.direction <;> decide
  have leftBack : forall {c d : Direction}, c = d.left -> d = c.right := by
    intro c d
    cases c <;> cases d <;> decide
  rcases mask.follow_cases a with ⟨_, nextA⟩ | ⟨_, _, nextA⟩ | ⟨aheadA, _, nextA⟩ <;>
    rcases mask.follow_cases b with ⟨_, nextB⟩ | ⟨_, _, nextB⟩ | ⟨aheadB, _, nextB⟩ <;>
    rw [nextA, nextB] at turn <;> simp only [Edge.onward_direction] at turn
  · exact Edge.onward_injective (undoRight turn) sameFinish
  · exact absurd turn.symm (no_right_turn_between memberA memberB sameFinish)
  · exact absurd turn (right_ne_left_of_follow memberA sameFinish aheadB)
  · exact absurd turn (no_right_turn_between memberB memberA sameFinish.symm)
  · exact Edge.onward_injective turn sameFinish
  · exact absurd (leftBack turn) (no_right_turn_between memberA memberB sameFinish)
  · exact absurd turn.symm (right_ne_left_of_follow memberB sameFinish.symm aheadA)
  · exact absurd (leftBack turn.symm) (no_right_turn_between memberB memberA sameFinish.symm)
  · exact Edge.onward_injective (undoLeft turn) sameFinish

/-- As long as only boundary edges are on offer and the successor is one of
them, the preferred edge is the successor. -/
theorem next?_eq_follow {first last : Edge} {unused : EdgePool}
    (offered : forall edge, edge = first ∨ unused.contains edge = true -> edge ∈ mask.boundary)
    (available : mask.follow last = first ∨ unused.contains (mask.follow last) = true) :
    Chain.next? first last unused = some (mask.follow last) := by
  let isOffered : Edge -> Bool := fun edge => edge = first || unused.contains edge
  have passes : forall {edge : Edge}, edge = first ∨ unused.contains edge = true ->
      isOffered edge = true := by
    intro edge offer
    simpa only [isOffered, Bool.or_eq_true, decide_eq_true_eq] using offer
  have fails : forall {edge : Edge}, edge ∉ mask.boundary -> ¬ isOffered edge = true := by
    intro edge outside offer
    simp only [isOffered, Bool.or_eq_true, decide_eq_true_eq] at offer
    exact outside (offered edge offer)
  change [last.onward last.direction.right, last.onward last.direction,
    last.onward last.direction.left].find? isOffered = _
  rcases mask.follow_cases last with ⟨_, next⟩ | ⟨right, _, next⟩ | ⟨right, left, next⟩
  · rw [next] at available ⊢
    exact List.find?_cons_of_pos (passes available)
  · rw [next] at available ⊢
    rw [List.find?_cons_of_neg (fails (right_turn_not_mem_boundary right))]
    exact List.find?_cons_of_pos (passes available)
  · rw [next] at available ⊢
    have straight : last.onward last.direction ∉ mask.boundary := by
      intro member
      rw [(mem_boundary.mp member).2] at left
      exact absurd left Bool.false_ne_true
    rw [List.find?_cons_of_neg (fails (right_turn_not_mem_boundary right)),
      List.find?_cons_of_neg (fails straight)]
    exact List.find?_cons_of_pos (passes available)

end Mask
end BattleMap
