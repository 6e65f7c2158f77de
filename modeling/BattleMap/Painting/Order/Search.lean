namespace BattleMap

/-!
# Searching a list from its front

Two searches find how far the front of a list meets a condition.  Halving looks
at the middle of the places that are still possible.  Doubling first looks at
places ever further away, which is quicker if the answer is near the front, and
halves what it has enclosed.

Both are exact if the elements that meet the condition come before all others.
Otherwise the answer depends on the places that are looked at, so these are laid
down: a list can be searched from its other end, and then the middle of an even
number of places is the one nearer to that end.
-/

namespace Order

inductive End where
  | front
  | back
deriving DecidableEq, Repr

/-- How far the middle of some places is from the first one. -/
def End.middle (side : End) (room : Nat) : Nat :=
  match side with
  | .front => room / 2
  | .back => (room - 1) / 2

theorem End.middle_lt (side : End) {room : Nat} (some : 0 < room) : side.middle room < room := by
  cases side <;> simp only [middle] <;> omega

/-- Halve the places from `low` on, `room` of them, until the first element that
does not meet the condition is found. -/
def halve (side : End) (meets : α -> Bool) (list : List α) (low room : Nat) : Nat :=
  if _more : 0 < room then
    let step := side.middle room
    if (list[low + step]?).any meets then
      halve side meets list (low + step + 1) (room - step - 1)
    else halve side meets list low step
  else low
termination_by room
decreasing_by
  · omega
  · exact side.middle_lt _more

/-- Look at ever further places until one does not meet the condition or the list
ends.  The result is the last place that was seen to meet it, and the place
where the search ended. -/
def reach (meets : α -> Bool) (list : List α) (good next : Nat) : Nat × Nat :=
  if _inside : next < list.length then
    if (list[next]?).any meets then reach meets list next (2 * next + 1) else (good, next)
  else (good, list.length)
termination_by list.length - next

/-- How many elements at the front of a list meet a condition, by doubling. -/
def lead (side : End) (meets : α -> Bool) (list : List α) : Nat :=
  if (list.head?).any meets then
    let (good, next) := reach meets list 0 1
    halve side meets list (good + 1) (next - (good + 1))
  else 0

end Order
end BattleMap
