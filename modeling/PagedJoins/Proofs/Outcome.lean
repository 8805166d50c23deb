import Mathlib.Data.List.Forall2
import PagedJoins.Outcome

/-!
# Steps that succeed

A computation succeeds only if all its steps do. Each lemma here takes a success apart: the
step before it has succeeded with a value, and what follows has succeeded with that value. A
failure is that of one of the steps.
-/

namespace PagedJoins

/-! ## Steps that may fail -/

section Except

variable {α β ε : Type}

theorem exists_of_bind_eq_ok {step : Except ε α} {next : α → Except ε β} {result : β}
    (succeeds : (step >>= next) = .ok result) :
    ∃ value, step = .ok value ∧ next value = .ok result := by
  cases step with
  | error fault => cases succeeds
  | ok value => exact ⟨value, rfl, succeeds⟩

theorem exists_of_map_eq_ok {step : Except ε α} {f : α → β} {result : β}
    (succeeds : f <$> step = .ok result) : ∃ value, step = .ok value ∧ f value = result := by
  cases step with
  | error fault => cases succeeds
  | ok value =>
      cases succeeds
      exact ⟨value, rfl, rfl⟩

theorem eq_ok_of_mapError_eq_ok {ε' : Type} {step : Except ε α} {f : ε → ε'} {result : α}
    (succeeds : step.mapError f = .ok result) : step = .ok result := by
  cases step with
  | error fault => cases succeeds
  | ok value =>
      cases succeeds
      rfl

/-- Something is worked out for each of some things just if it is for one after another. -/
theorem mapM_eq_ok_iff {f : α → Except ε β} {elements : List α} {results : List β} :
    elements.mapM f = .ok results ↔
      List.Forall₂ (fun element result => f element = .ok result) elements results := by
  induction elements generalizing results with
  | nil =>
      constructor
      · intro each
        cases each
        exact .nil
      · intro each
        cases each
        rfl
  | cons element elements ih =>
      rw [List.mapM_cons]
      constructor
      · intro each
        obtain ⟨result, here, later⟩ := exists_of_bind_eq_ok each
        obtain ⟨others, found, whole⟩ := exists_of_bind_eq_ok later
        cases whole
        exact .cons here (ih.mp found)
      · intro each
        cases each with
        | cons here later =>
            rw [here, ih.mpr later]
            rfl

theorem exists_of_forall₂_of_mem {related : α → β → Prop} {elements : List α} {values : List β}
    (each : List.Forall₂ related elements values) {value : β} (member : value ∈ values) :
    ∃ element ∈ elements, related element value := by
  induction each with
  | nil => cases member
  | cons relates _ ih =>
      cases member with
      | head => exact ⟨_, .head _, relates⟩
      | tail _ member =>
          obtain ⟨element, inside, relates⟩ := ih member
          exact ⟨element, .tail _ inside, relates⟩

theorem eq_error_of_bind_eq_error {step : Except ε α} {next : α → Except ε β} {fault : ε}
    (fails : (step >>= next) = .error fault) :
    step = .error fault ∨ ∃ value, step = .ok value ∧ next value = .error fault := by
  cases step with
  | error cause =>
      cases fails
      exact .inl rfl
  | ok value => exact .inr ⟨value, rfl, fails⟩

theorem eq_error_of_map_eq_error {step : Except ε α} {f : α → β} {fault : ε}
    (fails : f <$> step = .error fault) : step = .error fault := by
  cases step with
  | error cause =>
      cases fails
      rfl
  | ok value => cases fails

theorem exists_of_mapError_eq_error {ε' : Type} {step : Except ε α} {f : ε → ε'} {fault : ε'}
    (fails : step.mapError f = .error fault) : ∃ cause, step = .error cause ∧ f cause = fault := by
  cases step with
  | error cause =>
      cases fails
      exact ⟨cause, rfl, rfl⟩
  | ok value => cases fails

theorem exists_of_mapM_eq_error {f : α → Except ε β} {given : Option α} {fault : ε}
    (fails : given.mapM f = .error fault) :
    ∃ value, given = some value ∧ f value = .error fault := by
  cases given with
  | none => cases fails
  | some value =>
      rw [Option.mapM_some] at fails
      exact ⟨value, rfl, eq_error_of_map_eq_error fails⟩

end Except

/-! ## Runs -/

namespace Run

variable {α β : Type}

/-- A run and what follows it succeed together. -/
theorem bind_eq_ok {run : Run α} {next : α → Run β} {result : β}
    (succeeds : (run >>= next).outcome = .ok result) :
    ∃ value, run.outcome = .ok value ∧ (next value).outcome = .ok result := by
  obtain ⟨calls, outcome⟩ := run
  cases outcome with
  | ok value => exact ⟨value, rfl, succeeds⟩
  | failed error => cases succeeds
  | cancelled reason => cases succeeds
  | panicked message => cases succeeds

theorem pure_eq_ok {value result : α} (succeeds : (pure value : Run α).outcome = .ok result) :
    value = result := by
  cases succeeds
  rfl

theorem call_eq_ok {record : Call} {outcome : Outcome α} {result : α}
    (succeeds : (call record outcome).outcome = .ok result) : outcome = .ok result := by
  cases outcome with
  | ok value => exact succeeds
  | failed error => cases succeeds
  | cancelled reason => cases succeeds
  | panicked message => cases succeeds

theorem ofExcept_eq_ok {step : Except Error α} {result : α}
    (succeeds : (ofExcept step).outcome = .ok result) : step = .ok result := by
  cases step with
  | ok value =>
      cases succeeds
      rfl
  | error error => cases succeeds

end Run

end PagedJoins
