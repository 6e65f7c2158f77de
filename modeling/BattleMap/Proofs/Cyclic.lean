import Mathlib.Algebra.BigOperators.Group.List.Basic
import BattleMap.Geometry.Loop

namespace BattleMap
namespace Loop

/-!
# Lists read as cycles

The corners of a loop and the edges of a chain are lists whose last entry is
followed by the first.  A map that sends every entry to the one behind it sends
the whole list to the rotated one, and then whatever the map preserves holds of
all entries as soon as it holds of one.
-/

theorem rotated_perm (entries : List β) : (rotated entries).Perm entries := by
  cases entries with
  | nil => exact List.Perm.refl _
  | cons first rest => exact List.perm_append_singleton first rest

@[simp] theorem mem_rotated {entries : List β} {entry : β} :
    entry ∈ rotated entries ↔ entry ∈ entries :=
  (rotated_perm entries).mem_iff

@[simp] theorem length_rotated (entries : List β) :
    (rotated entries).length = entries.length :=
  (rotated_perm entries).length_eq

theorem map_rotated (f : β -> γ) (entries : List β) :
    (rotated entries).map f = rotated (entries.map f) := by
  cases entries with
  | nil => rfl
  | cons first rest => simp [rotated]

variable {next : β -> β}

theorem next_mem {cycle : List β} (turns : cycle.map next = rotated cycle) {entry : β}
    (member : entry ∈ cycle) : next entry ∈ cycle := by
  apply mem_rotated.mp
  rw [← turns]
  exact List.mem_map_of_mem member

theorem exists_previous {cycle : List β} (turns : cycle.map next = rotated cycle) {entry : β}
    (member : entry ∈ cycle) : Exists fun previous => previous ∈ cycle ∧ next previous = entry := by
  have listed : entry ∈ cycle.map next := by
    rw [turns]
    exact mem_rotated.mpr member
  exact List.mem_map.mp listed

/-- A cycle may be entered at any of its entries. -/
theorem turns_at {before after : List β} {entry : β}
    (turns : (before ++ entry :: after).map next = rotated (before ++ entry :: after)) :
    (entry :: (after ++ before)).map next = rotated (entry :: (after ++ before)) := by
  cases before with
  | nil =>
      rw [List.append_nil]
      exact turns
  | cons first rest =>
      have split : (first :: rest).map next ++ (entry :: after).map next =
          (rest ++ [entry]) ++ (after ++ [first]) := by
        rw [← List.map_append, turns]
        simp [rotated]
      have parts := List.append_inj split (by simp)
      rw [← List.cons_append, List.map_append, parts.1, parts.2]
      simp [rotated]

theorem perm_at (before after : List β) (entry : β) :
    (entry :: (after ++ before)).Perm (before ++ entry :: after) := by
  rw [← List.cons_append]
  exact List.perm_append_comm

private theorem forall_mem_of_path {property : β -> Prop} {last : β} (rest : List β) (first : β)
    (path : (first :: rest).map next = rest ++ [last])
    (kept : forall entry, entry ∈ first :: rest -> property entry -> property (next entry))
    (start : property first) : forall entry, entry ∈ first :: rest -> property entry := by
  induction rest generalizing first with
  | nil =>
      intro entry member
      rw [List.mem_singleton.mp member]
      exact start
  | cons second rest later =>
      have parts := List.cons.inj path
      have reached : property second := parts.1 ▸ kept first List.mem_cons_self start
      intro entry member
      rcases List.mem_cons.mp member with same | member
      · rw [same]
        exact start
      · exact later second parts.2
          (fun entry member => kept entry (List.mem_cons_of_mem _ member)) reached entry member

/-- A property that is kept from each entry of a cycle to the next holds of all
entries if it holds of one of them. -/
theorem forall_mem_of_next (property : β -> Prop) {cycle : List β}
    (turns : cycle.map next = rotated cycle)
    (kept : forall entry, entry ∈ cycle -> property entry -> property (next entry))
    {one : β} (member : one ∈ cycle) (start : property one) :
    forall entry, entry ∈ cycle -> property entry := by
  rcases List.append_of_mem member with ⟨before, after, rfl⟩
  have entered := perm_at before after one
  intro entry member
  exact forall_mem_of_path (after ++ before) one (turns_at turns)
    (fun entry member => kept entry (entered.mem_iff.mp member)) start entry
    (entered.mem_iff.mpr member)

private theorem eq_of_paths {last : β} (rest others : List β) (first : β)
    (path : (first :: rest).map next = rest ++ [last]) (ends : last ∉ rest)
    (pathOther : (first :: others).map next = others ++ [last]) (endsOther : last ∉ others) :
    rest = others := by
  induction rest generalizing first others with
  | nil =>
      cases others with
      | nil => rfl
      | cons other others =>
          have reached := (List.cons.inj path).1.symm.trans (List.cons.inj pathOther).1
          exact absurd (reached ▸ List.mem_cons_self) endsOther
  | cons second rest later =>
      cases others with
      | nil =>
          have reached := (List.cons.inj pathOther).1.symm.trans (List.cons.inj path).1
          exact absurd (reached ▸ List.mem_cons_self) ends
      | cons other others =>
          have same := (List.cons.inj path).1.symm.trans (List.cons.inj pathOther).1
          subst same
          exact congrArg _ (later others second (List.cons.inj path).2
            (fun member => ends (List.mem_cons_of_mem _ member)) (List.cons.inj pathOther).2
            fun member => endsOther (List.mem_cons_of_mem _ member))

/-- Cycles without repetitions that are entered at the same place are the same. -/
theorem eq_of_turns {first : β} {rest others : List β}
    (turns : (first :: rest).map next = rotated (first :: rest)) (distinct : (first :: rest).Nodup)
    (turnsOther : (first :: others).map next = rotated (first :: others))
    (distinctOther : (first :: others).Nodup) : rest = others :=
  eq_of_paths rest others first turns (List.nodup_cons.mp distinct).1 turnsOther
    (List.nodup_cons.mp distinctOther).1

/-! ## Neighbouring entries -/

theorem map_fst_zip_rotated (cycle : List β) : (cycle.zip (rotated cycle)).map Prod.fst = cycle :=
  List.map_fst_zip (Nat.le_of_eq (length_rotated cycle).symm)

theorem map_snd_zip_rotated (cycle : List β) :
    (cycle.zip (rotated cycle)).map Prod.snd = rotated cycle :=
  List.map_snd_zip (Nat.le_of_eq (length_rotated cycle))

theorem length_sides (loop : Loop α) : loop.sides.length = loop.points.length := by
  unfold sides
  rw [List.length_zip, length_rotated, Nat.min_self]

/-- The entry behind an entry is the one to which the map sends it. -/
theorem zip_rotated_of_turns {cycle : List β} (turns : cycle.map next = rotated cycle) :
    cycle.zip (rotated cycle) = cycle.map fun entry => (entry, next entry) := by
  rw [← turns, ← List.zip_map', List.map_id']

/-- Whatever stands next to each other among pairs of neighbours is a pair of
neighbours itself. -/
theorem mem_zip_rotated_of_pairs {cycle : List β} {pairs : (β × β) × (β × β)}
    (member : pairs ∈ (cycle.zip (rotated cycle)).zip (rotated (cycle.zip (rotated cycle)))) :
    (pairs.1.1, pairs.2.1) ∈ cycle.zip (rotated cycle) := by
  have listed := List.mem_map_of_mem (f := Prod.map Prod.fst Prod.fst) member
  rw [← List.zip_map, map_rotated, map_fst_zip_rotated] at listed
  exact listed

private theorem last_eq_first_iff {colour : β -> Bool} (rest : List β) (first last : β)
    (alternates : forall pair, pair ∈ (first :: rest).zip (rest ++ [last]) ->
      colour pair.2 = !colour pair.1) :
    colour last = colour first ↔ rest.length % 2 = 1 := by
  induction rest generalizing first with
  | nil =>
      rw [alternates (first, last) List.mem_cons_self]
      simp
  | cons second rest later =>
      have tail := later second fun pair member => alternates pair (List.mem_cons_of_mem _ member)
      have change := alternates (first, second) List.mem_cons_self
      have flips : colour last = colour first ↔ ¬ colour last = !colour first := by
        cases colour last <;> cases colour first <;> decide
      rw [change] at tail
      rw [flips, tail, List.length_cons]
      omega

/-- A cycle in two colours on which the colour changes at every step has an even
number of entries. -/
theorem even_length_of_alternates (colour : β -> Bool) {cycle : List β}
    (alternates : forall pair, pair ∈ cycle.zip (rotated cycle) -> colour pair.2 = !colour pair.1) :
    cycle.length % 2 = 0 := by
  cases cycle with
  | nil => rfl
  | cons first rest =>
      have odd := (last_eq_first_iff rest first first alternates).mp rfl
      rw [List.length_cons]
      omega

end Loop
end BattleMap
