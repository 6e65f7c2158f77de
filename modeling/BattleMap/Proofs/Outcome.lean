namespace BattleMap
namespace Outcome

/-!
# Outcomes of steps that can fail

The program is written as steps of which each can end the whole with a fault.
A result of several steps is taken apart into the results of the single ones.
-/

variable {ε α β : Type}

theorem bind_eq_ok {step : Except ε α} {next : α -> Except ε β} {result : β} :
    (step >>= next) = .ok result ↔
      Exists fun middle => step = .ok middle ∧ next middle = .ok result := by
  cases step with
  | error fault =>
      constructor
      · intro impossible
        cases impossible
      · rintro ⟨_, impossible, _⟩
        cases impossible
  | ok middle =>
      constructor
      · intro done
        exact ⟨middle, rfl, done⟩
      · rintro ⟨_, same, done⟩
        cases same
        exact done

/-- Steps fail if the first one does, or one behind it. -/
theorem bind_eq_error {step : Except ε α} {next : α -> Except ε β} {fault : ε} :
    (step >>= next) = .error fault ↔
      step = .error fault ∨ Exists fun middle => step = .ok middle ∧ next middle = .error fault := by
  cases step with
  | error other =>
      constructor
      · intro failed
        cases failed
        exact .inl rfl
      · rintro (failed | ⟨_, impossible, _⟩)
        · cases failed
          rfl
        · cases impossible
  | ok middle =>
      constructor
      · intro failed
        exact .inr ⟨middle, rfl, failed⟩
      · rintro (impossible | ⟨_, same, failed⟩)
        · cases impossible
        · cases same
          exact failed

/-- A step whose result is only used to name a fault has no result. -/
theorem bind_error_ne_ok {step : Except ε α} {fault : α -> ε} {result : β} :
    (step >>= fun subject => .error (fault subject)) ≠ .ok result := by
  intro impossible
  rcases bind_eq_ok.mp impossible with ⟨_, _, impossible⟩
  cases impossible

/-- Two steps that fail alike have no results, whatever is asked of them. -/
theorem error_eq_ok_iff {fault : ε} {result : α} {property : β -> Prop} :
    (Except.error fault : Except ε α) = .ok result ↔
      Exists fun other => (Except.error fault : Except ε β) = .ok other ∧ property other := by
  constructor
  · intro impossible
    cases impossible
  · rintro ⟨_, impossible, _⟩
    cases impossible

theorem mapM_eq_ok {items : List α} {f : α -> Except ε β} {g : α -> β}
    (each : forall item, item ∈ items -> f item = .ok (g item)) :
    items.mapM f = .ok (items.map g) := by
  induction items with
  | nil => rfl
  | cons item rest later =>
      rw [List.mapM_cons, each item List.mem_cons_self,
        later fun other member => each other (List.mem_cons_of_mem _ member)]
      rfl

theorem exists_of_mem_mapM {items : List α} {f : α -> Except ε β} {results : List β}
    (mapped : items.mapM f = .ok results) {result : β} (member : result ∈ results) :
    Exists fun item => item ∈ items ∧ f item = .ok result := by
  induction items generalizing results with
  | nil =>
      cases mapped
      cases member
  | cons item rest later =>
      rw [List.mapM_cons] at mapped
      rcases bind_eq_ok.mp mapped with ⟨first, here, mapped⟩
      rcases bind_eq_ok.mp mapped with ⟨others, behind, same⟩
      cases same
      rcases List.mem_cons.mp member with rfl | member
      · exact ⟨item, List.mem_cons_self, here⟩
      · rcases later behind member with ⟨source, sourceMember, equal⟩
        exact ⟨source, List.mem_cons_of_mem _ sourceMember, equal⟩

theorem exists_of_mapM_eq_ok {items : List α} {f : α -> Except ε β} {results : List β}
    (mapped : items.mapM f = .ok results) {item : α} (member : item ∈ items) :
    Exists fun result => f item = .ok result := by
  induction items generalizing results with
  | nil => cases member
  | cons first rest later =>
      rw [List.mapM_cons] at mapped
      rcases bind_eq_ok.mp mapped with ⟨result, here, mapped⟩
      rcases bind_eq_ok.mp mapped with ⟨others, behind, _⟩
      rcases List.mem_cons.mp member with rfl | member
      · exact ⟨result, here⟩
      · exact later behind member

theorem exists_mapM_eq_ok {items : List α} {f : α -> Except ε β} {property : β -> Prop}
    (each : forall item, item ∈ items -> Exists fun result => f item = .ok result ∧ property result) :
    Exists fun results => items.mapM f = .ok results ∧
      forall result, result ∈ results -> property result := by
  induction items with
  | nil => exact ⟨[], rfl, fun _ member => nomatch member⟩
  | cons item rest later =>
      rcases each item List.mem_cons_self with ⟨first, here, holds⟩
      rcases later fun other member => each other (List.mem_cons_of_mem _ member) with
        ⟨others, behind, hold⟩
      refine ⟨first :: others, ?_, List.forall_mem_cons.mpr ⟨holds, hold⟩⟩
      rw [List.mapM_cons, here, behind]
      rfl

/-- One item that fails decides the outcome if no other item can fail differently. -/
theorem mapM_eq_error {items : List α} {f : α -> Except ε β} {fault : ε}
    (each : forall item, item ∈ items ->
      (Exists fun result => f item = .ok result) ∨ f item = .error fault)
    {item : α} (member : item ∈ items) (failed : f item = .error fault) :
    items.mapM f = .error fault := by
  induction items with
  | nil => cases member
  | cons first rest later =>
      rw [List.mapM_cons]
      rcases each first List.mem_cons_self with ⟨result, here⟩ | here
      · rcases List.mem_cons.mp member with rfl | behind
        · cases here.symm.trans failed
        · rw [here, later (fun other within => each other (List.mem_cons_of_mem _ within)) behind]
          rfl
      · rw [here]
        rfl

theorem mapM_append_eq_ok {first second : List α} {f : α -> Except ε β} {a b : List β}
    (here : first.mapM f = .ok a) (behind : second.mapM f = .ok b) :
    (first ++ second).mapM f = .ok (a ++ b) := by
  rw [List.mapM_append, here, behind]
  rfl

/-- Checks one after the other succeed if each of them does. -/
theorem forM_eq_ok_iff {items : List α} {check : α -> Except ε Unit} :
    items.forM check = .ok () ↔ forall item, item ∈ items -> check item = .ok () := by
  induction items with
  | nil => exact ⟨fun _ _ member => (nomatch member), fun _ => rfl⟩
  | cons item rest later =>
      change (check item >>= fun _ => rest.forM check) = .ok () ↔ _
      rw [bind_eq_ok, List.forall_mem_cons]
      constructor
      · rintro ⟨_, here, behind⟩
        exact ⟨here, later.mp behind⟩
      · rintro ⟨here, behind⟩
        exact ⟨(), here, later.mpr behind⟩

/-- The first check that fails decides, and no later one is made. -/
theorem forM_eq_error_iff {items : List α} {check : α -> Except ε Unit} {fault : ε} :
    items.forM check = .error fault ↔
      Exists fun before => Exists fun bad => Exists fun after => items = before ++ bad :: after ∧
        (forall item, item ∈ before -> check item = .ok ()) ∧ check bad = .error fault := by
  constructor
  · intro failed
    induction items with
    | nil => cases failed
    | cons item rest later =>
        change (check item >>= fun _ => rest.forM check) = .error fault at failed
        cases here : check item with
        | error other =>
            rw [here] at failed
            cases failed
            exact ⟨[], item, rest, rfl, fun _ member => (nomatch member), here⟩
        | ok done =>
            rw [here] at failed
            rcases later failed with ⟨before, bad, after, split, passed, faulty⟩
            exact ⟨item :: before, bad, after, by rw [split, List.cons_append],
              List.forall_mem_cons.mpr ⟨here, passed⟩, faulty⟩
  · rintro ⟨before, bad, after, rfl, passed, faulty⟩
    induction before with
    | nil =>
        change (check bad >>= fun _ => after.forM check) = .error fault
        rw [faulty]
        rfl
    | cons item rest later =>
        change (check item >>= fun _ => (rest ++ bad :: after).forM check) = .error fault
        rw [passed item List.mem_cons_self]
        exact later fun other member => passed other (List.mem_cons_of_mem _ member)

/-- Steps that check before they change anything can have all their checks made
first. -/
theorem foldlM_eq_forM_bind {σ : Type} {items : List α} {step : σ -> α -> Except ε σ}
    {check : α -> Except ε Unit} {change : σ -> α -> σ} (invariant : σ -> Prop)
    (checksFirst : forall state, invariant state -> forall item,
      step state item = check item >>= fun _ => .ok (change state item))
    (kept : forall state, invariant state -> forall item, invariant (change state item))
    {state : σ} (holds : invariant state) :
    items.foldlM step state = items.forM check >>= fun _ => .ok (items.foldl change state) := by
  induction items generalizing state with
  | nil => rfl
  | cons item rest later =>
      rw [List.foldlM_cons, checksFirst state holds item]
      change _ = (check item >>= fun _ => rest.forM check) >>= _
      cases check item with
      | error fault => rfl
      | ok done => exact later (kept state holds item)

/-! ## Two runs side by side -/

/-- Two steps that both have results, which are alike, or both end with faults, which
are alike. -/
inductive Alike {δ : Type} (faults : ε -> δ -> Prop) (results : α -> β -> Prop) :
    Except ε α -> Except δ β -> Prop where
  | error {fault : ε} {other : δ} (alike : faults fault other) :
      Alike faults results (.error fault) (.error other)
  | ok {result : α} {other : β} (alike : results result other) :
      Alike faults results (.ok result) (.ok other)

namespace Alike

variable {δ α' β' : Type} {faults : ε -> δ -> Prop} {results : α -> β -> Prop}

/-- Steps that go on alike from alike results are alike as a whole. -/
theorem bind {onward : α' -> β' -> Prop} {step : Except ε α} {other : Except δ β}
    {next : α -> Except ε α'} {nextOther : β -> Except δ β'} (here : Alike faults results step other)
    (behind : forall a b, results a b -> Alike faults onward (next a) (nextOther b)) :
    Alike faults onward (step >>= next) (other >>= nextOther) := by
  cases here with
  | error alike => exact .error alike
  | ok alike => exact behind _ _ alike

theorem foldlM {σ τ : Type} {state : σ -> τ -> Prop} {change : σ -> α -> Except ε σ}
    {changeOther : τ -> β -> Except δ τ} {counterpart : α -> β} {items : List α} {a : σ} {b : τ}
    (each : forall a b item, state a b ->
      Alike faults state (change a item) (changeOther b (counterpart item)))
    (start : state a b) :
    Alike faults state (items.foldlM change a)
      ((items.map counterpart).foldlM changeOther b) := by
  induction items generalizing a b with
  | nil => exact .ok start
  | cons item rest later =>
      rw [List.map_cons, List.foldlM_cons, List.foldlM_cons]
      exact (each a b item start).bind fun a b alike => later alike

end Alike

end Outcome
end BattleMap
