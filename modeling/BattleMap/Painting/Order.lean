import BattleMap.Painting.Order.Contest
import BattleMap.Painting.Order.Run

namespace BattleMap

/-!
# Putting a list in order

A list is cut into runs, and adjacent runs are merged as soon as the next run
shows that they belong together in a balanced tree of merges: every border
between two runs has a depth in that tree, and the deeper borders are merged
away first.

Elements are compared by a relation that says which of two strictly precedes the
other.  If some of them cannot be compared, neither precedes the other, and the
order is the one in which the merges leave them.
-/

namespace Order

/-- The depth of the border between two places in a list of the given length,
both places doubled: the first binary digit in which they differ as fractions of
the length. -/
def borderDepth (length : Nat) (a b : Nat) : Nat :=
  if _near : a < b ∧ b - a < length ∧ a / length = b / length then
    borderDepth length (2 * a) (2 * b) + 1
  else 1
termination_by length - (b - a)
decreasing_by omega

/-- A run in a list, with the number of elements before it and the depth of the
border behind it. -/
structure Run (α : Type) where
  before : Nat
  items : List α
  depth : Nat

/-- The runs that are waiting to be merged, the last one first, and the patience
for contests. -/
structure Stack (α : Type) where
  runs : List (Run α)
  patience : Nat

/-- Merge a run with the one behind it. -/
def Run.join (precedes : α -> α -> Bool) (patience : Nat) (run next : Run α) : Run α × Nat :=
  let (items, left) := merge precedes patience run.items next.items
  (⟨run.before, items, next.depth⟩, left)

/-- Merge the last runs as long as the border between them is deeper than the one
behind them. -/
def collapse (precedes : α -> α -> Bool) (depth : Nat) (patience : Nat) :
    (runs : List (Run α)) -> Stack α
  | last :: run :: runs =>
      if depth < run.depth then
        let (joined, left) := run.join precedes patience last
        collapse precedes depth left (joined :: runs)
      else ⟨last :: run :: runs, patience⟩
  | runs => ⟨runs, patience⟩
termination_by runs => runs.length

/-- Add a run behind the others.  The border between it and the last one is deep
if their middles are close to each other. -/
def push (precedes : α -> α -> Bool) (length : Nat) (stack : Stack α) (items : List α) : Stack α :=
  match stack.runs with
  | [] => ⟨[⟨0, items, 0⟩], stack.patience⟩
  | last :: _ =>
      let middle := 2 * last.before + last.items.length
      let depth := borderDepth length middle (middle + last.items.length + items.length)
      let collapsed := collapse precedes depth stack.patience stack.runs
      match collapsed.runs with
      | [] => collapsed
      | last :: runs =>
          ⟨⟨last.before + last.items.length, items, 0⟩ :: { last with depth } :: runs,
            collapsed.patience⟩

/-- Merge all runs that are left, the last two first unless the third last is
shorter than the last. -/
def joinAll (precedes : α -> α -> Bool) (patience : Nat) : (runs : List (Run α)) -> List α
  | [] => []
  | [run] => run.items
  | [last, run] => (merge precedes patience run.items last.items).1
  | last :: run :: third :: runs =>
      if third.items.length < last.items.length then
        let (joined, left) := third.join precedes patience run
        joinAll precedes left (last :: joined :: runs)
      else
        let (joined, left) := run.join precedes patience last
        joinAll precedes left (joined :: third :: runs)
termination_by runs => runs.length

/-- Cut a list into runs and add them to the stack. -/
def pushAll (precedes : α -> α -> Bool) (length : Nat) (stack : Stack α) :
    (list : List α) -> Stack α
  | [] => stack
  | first :: rest =>
      let cut := cutRun precedes (leastRun length 0) first rest
      pushAll precedes length (push precedes length stack cut.1) cut.2
termination_by list => list.length
decreasing_by exact Nat.lt_succ_of_le (length_snd_cutRun_le _ _ _ _)

/-- The patience for the first contest. -/
def firstPatience : Nat := Contest.longLead

def arrange (precedes : α -> α -> Bool) (list : List α) : List α :=
  let stack := pushAll precedes list.length ⟨[], firstPatience⟩ list
  joinAll precedes stack.patience stack.runs

end Order
end BattleMap
