import PagedJoins.Error

/-!
# Outcomes and runs

A callback may fail, be cancelled or break down as well as succeed. A run is a
computation that calls callbacks: it records the calls in order and stops at the
first that does not succeed, with that call's outcome. So a call is recorded exactly
if every call before it succeeded.
-/

namespace PagedJoins

/-- How a callback, or a compilation that rests on callbacks, ends. -/
inductive Outcome (α : Type) where
  | ok (value : α)
  | failed (error : Error)
  | cancelled (reason : String)
  | panicked (message : String)
  deriving Repr

namespace Outcome

variable {α β : Type}

/-- The outcome with its value changed. -/
def map (f : α → β) : Outcome α → Outcome β
  | ok value => ok (f value)
  | failed error => failed error
  | cancelled reason => cancelled reason
  | panicked message => panicked message

/-- The outcome with its error changed. -/
def mapError (f : Error → Error) : Outcome α → Outcome α
  | failed error => failed (f error)
  | other => other

/-- The outcome of a step that calls nothing. -/
def ofExcept : Except Error α → Outcome α
  | .ok value => ok value
  | .error error => failed error

end Outcome

/-- Which callback of a relation is called. -/
inductive CallSite where
  | filter
  | join
  | junctionFilter
  /-- A join condition of the junction, by its position. -/
  | junctionJoin (index : Nat)
  | batchJoin
  deriving DecidableEq, Repr

/-- The hook that an error of the call is attributed to. -/
def CallSite.hook : CallSite → Hook
  | filter => .filter
  | join => .join
  | junctionFilter => .junctionFilter
  | junctionJoin _ | batchJoin => .junctionJoin

/-- A call of a callback: the alias of its relation, and the quoted aliases of the tables
it is to be about. -/
structure Call where
  site : CallSite
  node : String
  tables : List String
  deriving DecidableEq, Repr

/-- A computation with the calls that it makes. -/
structure Run (α : Type) where
  calls : List Call
  outcome : Outcome α

namespace Run

variable {α β : Type}

/-- A run that calls nothing. -/
def ofOutcome (outcome : Outcome α) : Run α :=
  ⟨[], outcome⟩

/-- A step that calls nothing and may fail. -/
def ofExcept (result : Except Error α) : Run α :=
  ofOutcome (.ofExcept result)

/-- A single call. Its error is attributed to the call's hook and relation. -/
def call (record : Call) (outcome : Outcome α) : Run α :=
  ⟨[record], outcome.mapError (.callback record.node record.site.hook)⟩

/-- Go on with the value of a run, if it has one. -/
def bind (run : Run α) (next : α → Run β) : Run β :=
  match run.outcome with
  | .ok value =>
    let rest := next value
    ⟨run.calls ++ rest.calls, rest.outcome⟩
  | .failed error => ⟨run.calls, .failed error⟩
  | .cancelled reason => ⟨run.calls, .cancelled reason⟩
  | .panicked message => ⟨run.calls, .panicked message⟩

instance : Monad Run where
  pure value := ofOutcome (.ok value)
  bind := bind

theorem bind_pure_self (run : Run α) : run >>= pure = run := by
  obtain ⟨calls, outcome⟩ := run
  cases outcome <;> simp [Bind.bind, bind, Pure.pure, ofOutcome]

theorem pure_bind_eq (value : α) (next : α → Run β) : pure value >>= next = next value := by
  simp [Bind.bind, bind, Pure.pure, ofOutcome]

theorem bind_bind_eq {γ : Type} (run : Run α) (next : α → Run β) (last : β → Run γ) :
    run >>= next >>= last = run >>= fun value => next value >>= last := by
  obtain ⟨calls, outcome⟩ := run
  cases outcome with
  | ok value =>
    simp only [Bind.bind, bind]
    cases (next value).outcome <;> simp
  | failed => rfl
  | cancelled => rfl
  | panicked => rfl

instance : LawfulMonad Run :=
  LawfulMonad.mk' _ bind_pure_self pure_bind_eq bind_bind_eq

@[simp] theorem calls_pure (value : α) : (pure value : Run α).calls = [] :=
  rfl

end Run

end PagedJoins
