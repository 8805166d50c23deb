import PagedJoins.Proofs.Outcome

/-!
# Runs one after another

A list of runs is gone through until one does not succeed. Either all of them succeed, and
their values are there in order, or there is a first one that does not: then its outcome is
that of the whole, and what stands behind it is not begun.
-/

namespace PagedJoins

/-! ## Outcomes without a value -/

namespace Outcome

variable {α β : Type}

/-- An outcome that has no value, as the outcome of anything. -/
def stopped (stop : Outcome Empty) : Outcome α :=
  stop.map Empty.elim

/-- What is not a value is an outcome without one. -/
theorem ok_or_stopped (outcome : Outcome α) :
    (∃ value, outcome = .ok value) ∨ ∃ stop, outcome = stopped stop := by
  cases outcome with
  | ok value => exact .inl ⟨value, rfl⟩
  | failed error => exact .inr ⟨.failed error, rfl⟩
  | cancelled reason => exact .inr ⟨.cancelled reason, rfl⟩
  | panicked message => exact .inr ⟨.panicked message, rfl⟩

@[simp] theorem stopped_ne_ok (stop : Outcome Empty) (value : α) : stopped stop ≠ .ok value := by
  cases stop with
  | ok value => exact value.elim
  | failed | cancelled | panicked => intro equal; cases equal

@[simp] theorem map_stopped (f : α → β) (stop : Outcome Empty) :
    (stopped stop : Outcome α).map f = stopped stop := by
  cases stop with
  | ok value => exact value.elim
  | failed | cancelled | panicked => rfl

@[simp] theorem mapError_stopped (f : Error → Error) (stop : Outcome Empty) :
    (stopped stop : Outcome α).mapError f = stopped (stop.mapError f) := by
  cases stop with
  | ok value => exact value.elim
  | failed | cancelled | panicked => rfl

theorem map_eq_ok {f : α → β} {outcome : Outcome α} {result : β}
    (changed : outcome.map f = .ok result) : ∃ value, outcome = .ok value ∧ f value = result := by
  obtain ⟨value, rfl⟩ | ⟨stop, rfl⟩ := outcome.ok_or_stopped
  · cases changed
    exact ⟨value, rfl, rfl⟩
  · rw [map_stopped] at changed
    exact absurd changed (stopped_ne_ok _ _)

theorem map_eq_stopped {f : α → β} {outcome : Outcome α} {stop : Outcome Empty}
    (changed : outcome.map f = stopped stop) : outcome = stopped stop := by
  obtain ⟨value, rfl⟩ | ⟨stop', rfl⟩ := outcome.ok_or_stopped
  · exact absurd changed.symm (stopped_ne_ok _ _)
  · rw [map_stopped] at changed
    cases stop' with
    | ok value => exact value.elim
    | failed | cancelled | panicked =>
        cases stop with
        | ok value => exact value.elim
        | failed | cancelled | panicked => cases changed <;> rfl

end Outcome

/-! ## Runs -/

namespace Run

variable {α β : Type}

theorem bind_of_ok {run : Run α} {value : α} (succeeds : run.outcome = .ok value)
    (next : α → Run β) :
    run >>= next = ⟨run.calls ++ (next value).calls, (next value).outcome⟩ := by
  simp [Bind.bind, bind, succeeds]

theorem bind_of_stopped {run : Run α} {stop : Outcome Empty}
    (stops : run.outcome = .stopped stop) (next : α → Run β) :
    run >>= next = ⟨run.calls, .stopped stop⟩ := by
  cases stop with
  | ok value => exact value.elim
  | failed | cancelled | panicked =>
      simp only [Bind.bind, bind, stops]
      rfl

/-- A run without its value. -/
def forget (run : Run α) : Run Unit :=
  ⟨run.calls, run.outcome.map fun _ => ()⟩

@[simp] theorem forget_pure (value : α) : (pure value : Run α).forget = pure () :=
  rfl

@[simp] theorem forget_unit (run : Run Unit) : run.forget = run := by
  obtain ⟨calls, outcome⟩ := run
  cases outcome <;> rfl

/-- Where a value does not matter for what follows, it can be forgotten before. -/
theorem forget_bind {run : Run α} {next : α → Run β} {rest : Run Unit}
    (same : ∀ value, (next value).forget = rest) :
    (run >>= next).forget = run.forget >>= fun _ => rest := by
  obtain ⟨value, succeeds⟩ | ⟨stop, stops⟩ := run.outcome.ok_or_stopped
  · rw [bind_of_ok succeeds, ← same value]
    simp [forget, Bind.bind, bind, succeeds, Outcome.map]
  · have forgotten : run.forget.outcome = .stopped stop := by simp [forget, stops]
    rw [bind_of_stopped stops, bind_of_stopped forgotten]
    simp [forget]

theorem forget_call (record : Call) (outcome : Outcome α) :
    (call record outcome).forget = call record (outcome.map fun _ => ()) := by
  cases outcome <;> rfl

theorem forget_bind_pure (run : Run α) (f : α → β) :
    (run >>= fun value => pure (f value)).forget = run.forget := by
  rw [forget_bind fun _ => forget_pure _]
  exact bind_pure_unit

theorem forget_mapM_cons (step : α → Run β) (head : α) (tail : List α) :
    ((head :: tail).mapM step).forget =
      (step head).forget >>= fun _ => (tail.mapM step).forget := by
  rw [List.mapM_cons]
  exact forget_bind fun _ => forget_bind_pure _ _

/-- Runs one after another, by the first that does not succeed. The calls are those of the runs
up to it; without such a one they are those of all. -/
theorem mapM_cases (step : α → Run β) (elements : List α) :
    (∃ values,
      List.Forall₂ (fun element value => (step element).outcome = .ok value) elements values ∧
      elements.mapM step = ⟨elements.flatMap fun element => (step element).calls, .ok values⟩) ∨
    ∃ before element after stop,
      elements = before ++ element :: after ∧
      (∀ earlier ∈ before, ∃ value, (step earlier).outcome = .ok value) ∧
      (step element).outcome = .stopped stop ∧
      elements.mapM step =
        ⟨(before.flatMap fun earlier => (step earlier).calls) ++ (step element).calls,
          .stopped stop⟩ := by
  induction elements with
  | nil => exact .inl ⟨[], .nil, rfl⟩
  | cons head tail ih =>
      rw [List.mapM_cons]
      obtain ⟨value, succeeds⟩ | ⟨stop, stops⟩ := (step head).outcome.ok_or_stopped
      · rw [bind_of_ok succeeds]
        obtain ⟨values, each, all⟩ | ⟨before, element, after, stop, parts, each, stops, all⟩ := ih
        · left
          refine ⟨value :: values, .cons succeeds each, ?_⟩
          rw [all, bind_of_ok rfl]
          simp [Pure.pure, ofOutcome]
        · right
          refine ⟨head :: before, element, after, stop, by rw [parts]; rfl, ?_, stops, ?_⟩
          · intro earlier member
            obtain rfl | member := List.mem_cons.mp member
            · exact ⟨value, succeeds⟩
            · exact each earlier member
          · rw [all, bind_of_stopped rfl]
            simp
      · right
        exact ⟨[], head, tail, stop, rfl, by simp, stops, bind_of_stopped stops _⟩

theorem forall₂_of_mapM_eq_ok {step : α → Run β} {elements : List α} {values : List β}
    (succeeds : (elements.mapM step).outcome = .ok values) :
    List.Forall₂ (fun element value => (step element).outcome = .ok value) elements values := by
  obtain ⟨values', each, all⟩ | ⟨_, _, _, stop, -, -, -, all⟩ := mapM_cases step elements
  · rw [all] at succeeds
    cases succeeds
    exact each
  · rw [all] at succeeds
    exact absurd succeeds (Outcome.stopped_ne_ok _ _)

end Run

end PagedJoins
