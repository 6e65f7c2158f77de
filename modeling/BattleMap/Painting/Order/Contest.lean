import BattleMap.Painting.Order.Search

namespace BattleMap

/-!
# Merging two lists

Two lists are merged by a contest between their first elements.  The holders
come first unless a challenger precedes them.  The contest goes on one element
at a time until one side has won many times in a row; how many is called the
patience.  From then on a whole lead of elements is taken at once, alternately
from either side, until the leads become short.  Patience shrinks as long as
that goes well and grows when it ends.

A contest can be held from the back as well: then both lists are given back to
front, the later list holds, and a challenger comes before a holder, counted
from the back, if the holder precedes it.
-/

namespace Order

/-- A contest between two lists, with what has come out of it, the latest first. -/
structure Contest (α : Type) where
  holders : List α
  challengers : List α
  out : List α

namespace Contest

def remaining (contest : Contest α) : Nat :=
  contest.holders.length + contest.challengers.length

def takeHolder (contest : Contest α) : Contest α :=
  match contest.holders with
  | [] => contest
  | holder :: holders => ⟨holders, contest.challengers, holder :: contest.out⟩

def takeChallenger (contest : Contest α) : Contest α :=
  match contest.challengers with
  | [] => contest
  | challenger :: challengers => ⟨contest.holders, challengers, challenger :: contest.out⟩

def takeHolders (contest : Contest α) (count : Nat) : Contest α :=
  ⟨contest.holders.drop count, contest.challengers,
    (contest.holders.take count).reverse ++ contest.out⟩

def takeChallengers (contest : Contest α) (count : Nat) : Contest α :=
  ⟨contest.holders, contest.challengers.drop count,
    (contest.challengers.take count).reverse ++ contest.out⟩

/-- Nothing is left to decide when a side has run out, or when only one holder is
left: the last holder comes last of all. -/
def decided? (contest : Contest α) : Option (List α) :=
  match contest.holders, contest.challengers with
  | [], rest | rest, [] => some (contest.out.reverse ++ rest)
  | [last], rest => some (contest.out.reverse ++ rest ++ [last])
  | _ :: _ :: _, _ :: _ => none

/-- End with the merged list if nothing is left to decide. -/
def goOn (contest : Contest α) : Except (List α) (Contest α) :=
  match contest.decided? with
  | some merged => .error merged
  | none => .ok contest

/-- Whether a challenger comes before a holder. -/
def overtakes (side : End) (precedes : α -> α -> Bool) (challenger holder : α) : Bool :=
  match side with
  | .front => precedes challenger holder
  | .back => precedes holder challenger

/-- One element comes out, if there is something left to decide before and after
that.  Something that is known about the contest is reported with it. -/
def answer (report : β) (contest : Contest α) (take : Contest α -> Contest α) :
    Except (List α) (β × Contest α) := do
  let between ← contest.goOn
  let after ← (take between).goOn
  return (report, after)

/-- The winner of the first elements comes out.  Whether it is the challenger is
reported. -/
def step (side : End) (precedes : α -> α -> Bool) (contest : Contest α) :
    Except (List α) (Bool × Contest α) :=
  let challengerWins := (contest.challengers.head?).any fun challenger =>
    (contest.holders.head?).any fun holder => overtakes side precedes challenger holder
  answer challengerWins contest (if challengerWins then takeChallenger else takeHolder)

/-- All holders that no challenger overtakes come out, and the first challenger
behind them.  The number of those holders is reported. -/
def holdersLeap (side : End) (precedes : α -> α -> Bool) (contest : Contest α) :
    Except (List α) (Nat × Contest α) :=
  let count := lead side (fun holder => !(contest.challengers.head?).any fun challenger =>
    overtakes side precedes challenger holder) contest.holders
  answer count (contest.takeHolders count) takeChallenger

/-- All challengers that overtake the first holder come out, and then that holder.
The number of those challengers is reported. -/
def challengersLeap (side : End) (precedes : α -> α -> Bool) (contest : Contest α) :
    Except (List α) (Nat × Contest α) :=
  let count := lead side (fun challenger => (contest.holders.head?).any fun holder =>
    overtakes side precedes challenger holder) contest.challengers
  answer count (contest.takeChallengers count) takeHolder

/-- Two leaps after each other.  The longer lead is reported. -/
def inTurn (first second : Contest α -> Except (List α) (Nat × Contest α)) (contest : Contest α) :
    Except (List α) (Nat × Contest α) := do
  let early ← first contest
  let late ← second early.2
  return (max early.1 late.1, late.2)

/-- One leap of each side, that of the earlier list first. -/
def leap (side : End) (precedes : α -> α -> Bool) (contest : Contest α) :
    Except (List α) (Nat × Contest α) :=
  match side with
  | .front => inTurn (holdersLeap side precedes) (challengersLeap side precedes) contest
  | .back => inTurn (challengersLeap side precedes) (holdersLeap side precedes) contest

theorem eq_of_goOn_eq_ok {contest next : Contest α} (undecided : contest.goOn = .ok next) :
    contest = next ∧ contest.holders ≠ [] ∧ contest.challengers ≠ [] := by
  obtain ⟨holders, challengers, out⟩ := contest
  match holders, challengers with
  | [], _ => cases undecided
  | [_], [] => cases undecided
  | [_], _ :: _ => cases undecided
  | _ :: _ :: _, [] => cases undecided
  | _ :: _ :: _, _ :: _ =>
      cases undecided
      exact ⟨rfl, List.cons_ne_nil _ _, List.cons_ne_nil _ _⟩

theorem remaining_takeHolder_lt {contest : Contest α} (some : contest.holders ≠ []) :
    contest.takeHolder.remaining < contest.remaining := by
  obtain ⟨holders, challengers, out⟩ := contest
  match holders with
  | [] => exact absurd rfl some
  | _ :: _ =>
      simp only [takeHolder, remaining, List.length_cons]
      omega

theorem remaining_takeChallenger_lt {contest : Contest α} (some : contest.challengers ≠ []) :
    contest.takeChallenger.remaining < contest.remaining := by
  obtain ⟨holders, challengers, out⟩ := contest
  match challengers with
  | [] => exact absurd rfl some
  | _ :: _ =>
      simp only [takeChallenger, remaining, List.length_cons]
      omega

theorem remaining_takeHolders_le (contest : Contest α) (count : Nat) :
    (contest.takeHolders count).remaining ≤ contest.remaining := by
  simp only [takeHolders, remaining, List.length_drop]
  omega

theorem remaining_takeChallengers_le (contest : Contest α) (count : Nat) :
    (contest.takeChallengers count).remaining ≤ contest.remaining := by
  simp only [takeChallengers, remaining, List.length_drop]
  omega

theorem eq_of_answer_eq_ok {report reported : β} {contest next : Contest α}
    {take : Contest α -> Contest α} (answered : answer report contest take = .ok (reported, next)) :
    next = take contest ∧ contest.holders ≠ [] ∧ contest.challengers ≠ [] := by
  unfold answer at answered
  cases undecided : contest.goOn with
  | error merged =>
      rw [undecided] at answered
      cases answered
  | ok between =>
      obtain ⟨same, nonempty⟩ := eq_of_goOn_eq_ok undecided
      rw [undecided, ← same] at answered
      change (do
        let after ← (take contest).goOn
        return (report, after)) = Except.ok (reported, next) at answered
      cases taken : (take contest).goOn with
      | error merged =>
          rw [taken] at answered
          cases answered
      | ok after =>
          rw [taken] at answered
          cases answered
          exact ⟨(eq_of_goOn_eq_ok taken).1.symm, nonempty⟩

theorem remaining_lt_of_step_eq_ok {side : End} {precedes : α -> α -> Bool}
    {contest next : Contest α} {challengerWins : Bool}
    (stepped : contest.step side precedes = .ok (challengerWins, next)) :
    next.remaining < contest.remaining := by
  obtain ⟨same, someHolder, someChallenger⟩ := eq_of_answer_eq_ok stepped
  rw [same]
  split
  · exact remaining_takeChallenger_lt someChallenger
  · exact remaining_takeHolder_lt someHolder

theorem remaining_lt_of_holdersLeap_eq_ok {side : End} {precedes : α -> α -> Bool}
    {contest next : Contest α} {count : Nat}
    (leapt : contest.holdersLeap side precedes = .ok (count, next)) :
    next.remaining < contest.remaining := by
  obtain ⟨same, _, some⟩ := eq_of_answer_eq_ok leapt
  rw [same]
  exact Nat.lt_of_lt_of_le (remaining_takeChallenger_lt some) (remaining_takeHolders_le contest _)

theorem remaining_lt_of_challengersLeap_eq_ok {side : End} {precedes : α -> α -> Bool}
    {contest next : Contest α} {count : Nat}
    (leapt : contest.challengersLeap side precedes = .ok (count, next)) :
    next.remaining < contest.remaining := by
  obtain ⟨same, some, _⟩ := eq_of_answer_eq_ok leapt
  rw [same]
  exact Nat.lt_of_lt_of_le (remaining_takeHolder_lt some) (remaining_takeChallengers_le contest _)

theorem remaining_lt_of_inTurn_eq_ok
    {first second : Contest α -> Except (List α) (Nat × Contest α)} {contest next : Contest α}
    {longest : Nat} (leapt : inTurn first second contest = .ok (longest, next))
    (firstShortens : forall {a b count}, first a = .ok (count, b) -> b.remaining < a.remaining)
    (secondShortens : forall {a b count}, second a = .ok (count, b) -> b.remaining < a.remaining) :
    next.remaining < contest.remaining := by
  unfold inTurn at leapt
  cases early : first contest with
  | error merged =>
      rw [early] at leapt
      cases leapt
  | ok between =>
      rw [early] at leapt
      change (do
        let late ← second between.2
        return (max between.1 late.1, late.2)) = Except.ok (longest, next) at leapt
      cases late : second between.2 with
      | error merged =>
          rw [late] at leapt
          cases leapt
      | ok after =>
          rw [late] at leapt
          cases leapt
          exact Nat.lt_trans (secondShortens late) (firstShortens early)

theorem remaining_lt_of_leap_eq_ok {side : End} {precedes : α -> α -> Bool}
    {contest next : Contest α} {longest : Nat}
    (leapt : contest.leap side precedes = .ok (longest, next)) :
    next.remaining < contest.remaining := by
  cases side with
  | front =>
      exact remaining_lt_of_inTurn_eq_ok leapt remaining_lt_of_holdersLeap_eq_ok
        remaining_lt_of_challengersLeap_eq_ok
  | back =>
      exact remaining_lt_of_inTurn_eq_ok leapt remaining_lt_of_challengersLeap_eq_ok
        remaining_lt_of_holdersLeap_eq_ok

inductive Pace where
  /-- One element at a time.  At most one of the sides has won the last times. -/
  | single (holderWins challengerWins : Nat)
  /-- By leaps, either for the first time or again. -/
  | leaping (again : Bool)
deriving DecidableEq, Repr

/-- A lead that is long enough to go on by leaps. -/
def longLead : Nat := 7

/-- The pace after the given wins in a row: patience may be at its end. -/
def Pace.after (patience holderWins challengerWins : Nat) : Pace :=
  if patience ≤ max holderWins challengerWins then .leaping false
  else .single holderWins challengerWins

/-- Hold a contest to its end.  The result is the merged list and the patience
that is left. -/
def play (side : End) (precedes : α -> α -> Bool) (pace : Pace) (patience : Nat)
    (contest : Contest α) : List α × Nat :=
  match pace with
  | .single holderWins challengerWins =>
      match _stepped : contest.step side precedes with
      | .error merged => (merged, patience)
      | .ok (true, next) => play side precedes (.after patience 0 (challengerWins + 1)) patience next
      | .ok (false, next) => play side precedes (.after patience (holderWins + 1) 0) patience next
  | .leaping again =>
      let eager := if again then max 1 (patience - 1) else patience
      match _leapt : contest.leap side precedes with
      | .error merged => (merged, eager)
      | .ok (longest, next) =>
          if longLead ≤ longest then play side precedes (.leaping true) eager next
          else play side precedes (.single 0 0) (eager + 1) next
termination_by contest.remaining
decreasing_by
  · exact remaining_lt_of_step_eq_ok _stepped
  · exact remaining_lt_of_step_eq_ok _stepped
  · exact remaining_lt_of_leap_eq_ok _leapt
  · exact remaining_lt_of_leap_eq_ok _leapt

end Contest

/-- Merge two lists, given the patience that is left from earlier contests.  The
front of the earlier list and the back of the later one take no part if they are
in their places already, and the shorter of what remains holds. -/
def merge (precedes : α -> α -> Bool) (patience : Nat) (earlier later : List α) : List α × Nat :=
  let settled := lead .front (fun a => !(later.head?).any fun first => precedes first a) earlier
  let front := earlier.drop settled
  let behind := lead .back (fun b => !(front.getLast?).any fun last => precedes b last) later.reverse
  let back := later.take (later.length - behind)
  if front.isEmpty || back.isEmpty then (earlier ++ later, patience)
  else
    let (merged, left) :=
      if front.length ≤ back.length then
        Contest.play .front precedes (.single 0 0) patience
          (⟨front, back, []⟩ : Contest α).takeChallenger
      else
        let (reversed, left) := Contest.play .back precedes (.single 0 0) patience
          (⟨back.reverse, front.reverse, []⟩ : Contest α).takeChallenger
        (reversed.reverse, left)
    (earlier.take settled ++ merged ++ later.drop (later.length - behind), left)

end Order
end BattleMap
