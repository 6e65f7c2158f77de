import BattleMap.Painting.Order.Search

namespace BattleMap

/-!
# Runs

A list is cut into runs, stretches that are in order already.  A stretch that
strictly runs the other way counts as well and is turned round.  A run that is
too short is lengthened by putting the next elements into their places one by
one.
-/

namespace Order

/-- How many elements follow the first one without an element that precedes the
one before it. -/
def ascending (precedes : α -> α -> Bool) : (before : α) -> List α -> Nat
  | _, [] => 0
  | before, next :: rest =>
      if precedes next before then 0 else ascending precedes next rest + 1

/-- How many elements follow the first one, each of which precedes the one
before it. -/
def descending (precedes : α -> α -> Bool) : (before : α) -> List α -> Nat
  | _, [] => 0
  | before, next :: rest =>
      if precedes next before then descending precedes next rest + 1 else 0

/-- Put an element into its place in a sorted list, behind everything that it
does not precede. -/
def insert (precedes : α -> α -> Bool) (sorted : List α) (item : α) : List α :=
  let place := halve .front (fun other => !precedes item other) sorted 0 sorted.length
  sorted.take place ++ item :: sorted.drop place

/-- The run at the front of a list that is not empty, and what is behind it.  The
run has at least the given length, or all elements. -/
def cutRun (precedes : α -> α -> Bool) (least : Nat) (first : α) (rest : List α) :
    List α × List α :=
  let falls := descending precedes first rest
  let follow := if 0 < falls then falls else ascending precedes first rest
  let stretch := first :: rest.take follow
  let more := (rest.drop follow).take (least - stretch.length)
  (more.foldl (insert precedes) (if 0 < falls then stretch.reverse else stretch),
    (rest.drop follow).drop (least - stretch.length))

theorem length_snd_cutRun_le (precedes : α -> α -> Bool) (least : Nat) (first : α)
    (rest : List α) : (cutRun precedes least first rest).2.length ≤ rest.length := by
  simp only [cutRun, List.length_drop]
  omega

/-- The least length of a run in a list of the given length: the list is halved
until fewer than sixty-four elements are left, and one more counts if a half was
ever cut off. -/
def leastRun (length : Nat) (excess : Nat) : Nat :=
  if _long : 64 ≤ length then leastRun (length / 2) (max excess (length % 2))
  else length + excess
termination_by length
decreasing_by omega

end Order
end BattleMap
