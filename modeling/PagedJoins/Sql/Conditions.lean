import PagedJoins.Text.Blank

/-!
# Lists of conditions

The conditions that a table is restricted by: the one that ties it to its parent, one
that may stand in for it where the parent is out of sight, and predicates. A blank text
is no condition, and a list without conditions is one that always holds.
-/

namespace PagedJoins

/-- The condition that always holds. -/
def tautology : String := "1>0"

/-- The text, unless it is blank. -/
def condition? (text : String) : Option String :=
  if Text.isBlank text then none else some text

theorem condition?_eq_some_iff {text part : String} :
    condition? text = some part ↔ text = part ∧ Text.isBlank part = false := by
  unfold condition?
  split
  · rename_i blank
    constructor
    · intro found
      cases found
    · rintro ⟨rfl, shown⟩
      rw [blank] at shown
      cases shown
  · rename_i shown
    constructor
    · intro found
      cases found
      exact ⟨rfl, by simpa using shown⟩
    · rintro ⟨rfl, _⟩
      rfl

theorem filter_isBlank (part : Option String) :
    (part.filter fun text => !Text.isBlank text) = part.bind condition? := by
  cases part with
  | none => rfl
  | some text =>
      rw [Option.filter, Option.bind_some, condition?]
      cases Text.isBlank text with
      | true => rfl
      | false => rfl

/-- The conjunction of some conditions. -/
def conjunction (parts : List String) : String :=
  if parts = [] then tautology else " AND ".intercalate parts

/-- The conditions on a table. -/
structure Conditions where
  /-- What ties the table to its parent. -/
  joinKey : Option String := none
  /-- What restricts the table where its parent cannot be seen. -/
  scope : Option String := none
  predicates : List String := []
  deriving DecidableEq, Repr

namespace Conditions

/-- Replace the condition that ties the table to its parent. -/
def setJoinKey (conditions : Conditions) (text : String) : Conditions :=
  { conditions with joinKey := condition? text }

/-- Replace the condition that stands in where the parent cannot be seen. -/
def setScope (conditions : Conditions) (text : String) : Conditions :=
  { conditions with scope := condition? text }

/-- Add a predicate at the end, if there is one. -/
def push (conditions : Conditions) (text : Option String) : Conditions :=
  { conditions with predicates := conditions.predicates ++ (text.bind condition?).toList }

@[simp] theorem push_none (conditions : Conditions) : conditions.push none = conditions := by
  simp [push]

/-- Is there nothing to restrict the table by, but perhaps a scope? -/
def isEmpty (conditions : Conditions) : Bool :=
  conditions.joinKey.isNone && conditions.predicates.isEmpty

/-- The conjunction where the parent can be seen. -/
def render (conditions : Conditions) : String :=
  conjunction (conditions.joinKey.toList ++ conditions.predicates)

/-- The conjunction where the parent cannot be seen. -/
def renderUncorrelated (conditions : Conditions) : String :=
  conjunction (conditions.scope.toList ++ conditions.predicates)

@[simp] theorem isEmpty_iff (conditions : Conditions) :
    conditions.isEmpty = true ↔ conditions.joinKey.toList ++ conditions.predicates = [] := by
  cases h : conditions.joinKey <;> simp [isEmpty, h]

end Conditions

end PagedJoins
