import PagedJoins.Proofs.Sql.Conjunction

/-!
# What a list of conditions holds

A list of conditions remembers little of how it was built up: the join key and the scope that it
was given last, and its predicates in order. A blank text is none of these, and takes away the join
key or the scope that was given before it. The text of a list shows just these parts, the
predicates behind the join key or behind the scope, so neither of the two shows beside the other.
-/

namespace PagedJoins

/-! ## What is never blank -/

theorem isBlank_append (before behind : String) :
    Text.isBlank (before ++ behind) = (Text.isBlank before && Text.isBlank behind) := by
  simp [Text.isBlank]

theorem isBlank_intercalate {separator first : String} (rest : List String)
    (solid : Text.isBlank first = false) :
    Text.isBlank (separator.intercalate (first :: rest)) = false := by
  cases rest with
  | nil => simpa using solid
  | cons next rest =>
      rw [String.intercalate_cons_cons, String.append_assoc, isBlank_append, solid,
        Bool.false_and]

theorem isBlank_conjunction {parts : List String}
    (solid : ∀ part ∈ parts, Text.isBlank part = false) :
    Text.isBlank (conjunction parts) = false := by
  cases parts with
  | nil => decide
  | cons part parts =>
      rw [conjunction, if_neg (List.cons_ne_nil _ _)]
      exact isBlank_intercalate parts (solid part (List.mem_cons_self ..))

namespace Conditions

/-- Is none of the conditions blank? -/
def Solid (conditions : Conditions) : Prop :=
  conditions.All fun part => Text.isBlank part = false

theorem solid_empty : Solid {} :=
  ⟨nofun, nofun, nofun⟩

theorem Step.isBlank_part {step : Step} {part : String} (brought : part ∈ step.part?) :
    Text.isBlank part = false := by
  cases step with
  | joinKey text => exact (condition?_eq_some_iff.mp brought).2
  | scope text => exact (condition?_eq_some_iff.mp brought).2
  | push text =>
      obtain ⟨given, -, shown⟩ := Option.bind_eq_some_iff.mp brought
      exact (condition?_eq_some_iff.mp shown).2

/-- Whatever a list of conditions is given, none of those in it is blank. -/
theorem Solid.apply {conditions : Conditions} (solid : conditions.Solid) (step : Step) :
    (step.apply conditions).Solid :=
  All.apply solid fun _ brought => Step.isBlank_part brought

theorem solid_after (steps : List Step) : (after steps).Solid :=
  All.foldl solid_empty fun _ _ _ brought => Step.isBlank_part brought

theorem Solid.render {conditions : Conditions} (solid : conditions.Solid) :
    Text.isBlank conditions.render = false :=
  isBlank_conjunction solid.correlated

theorem Solid.renderUncorrelated {conditions : Conditions} (solid : conditions.Solid) :
    Text.isBlank conditions.renderUncorrelated = false :=
  isBlank_conjunction solid.uncorrelated

/-! ## What is left of the steps -/

namespace Step

/-- The text, blank or not, that a step gives to tie the table to its parent. -/
def key? : Step → Option String
  | joinKey text => some text
  | scope _ | push _ => none

/-- The text, blank or not, that a step gives to stand in where the parent cannot be seen. -/
def scope? : Step → Option String
  | scope text => some text
  | joinKey _ | push _ => none

/-- The text, blank or not, that a step gives as a predicate. -/
def pushed? : Step → Option String
  | push text => text
  | joinKey _ | scope _ => none

theorem joinKey_apply (step : Step) (conditions : Conditions) :
    (step.apply conditions).joinKey = step.key?.elim conditions.joinKey condition? := by
  cases step <;> rfl

theorem scope_apply (step : Step) (conditions : Conditions) :
    (step.apply conditions).scope = step.scope?.elim conditions.scope condition? := by
  cases step <;> rfl

theorem predicate?_eq (step : Step) :
    step.predicate? = step.pushed?.filter fun text => !Text.isBlank text := by
  rw [filter_isBlank]
  cases step <;> rfl

end Step

variable (given? : Step → Option String)

/-- The last text that some steps give, unless that one is blank. -/
def lastSolid (steps : List Step) : Option String :=
  (steps.filterMap given?).getLast?.filter fun text => !Text.isBlank text

/-- The texts that some steps give, in order, but for the blank ones. -/
def allSolid (steps : List Step) : List String :=
  (steps.filterMap given?).filter fun text => !Text.isBlank text

variable {given? : Step → Option String}

/-- What every step replaces by the text that it gives is, behind some steps, the last of these
texts, or what it was before if there is none. -/
theorem foldl_replaced {field : Conditions → Option String}
    (replaces : ∀ (step : Step) (conditions : Conditions),
      field (step.apply conditions) = (given? step).elim (field conditions) condition?)
    (conditions : Conditions) (steps : List Step) :
    field (steps.foldl Step.apply conditions) =
      (steps.filterMap given?).getLast?.elim (field conditions) condition? := by
  induction steps generalizing conditions with
  | nil => rfl
  | cons step steps ih =>
      rw [List.foldl_cons, ih, replaces, List.filterMap_cons]
      cases given? step with
      | none => rfl
      | some text =>
          rw [List.getLast?_cons]
          cases (steps.filterMap given?).getLast? <;> rfl

/-- The same from the empty list on: a text that is blank leaves nothing. -/
theorem replaced_after {field : Conditions → Option String} (empty : field {} = none)
    (replaces : ∀ (step : Step) (conditions : Conditions),
      field (step.apply conditions) = (given? step).elim (field conditions) condition?)
    (steps : List Step) : field (after steps) = lastSolid given? steps := by
  rw [after, foldl_replaced replaces, empty, lastSolid, filter_isBlank]
  cases (steps.filterMap given?).getLast? <;> rfl

theorem joinKey_after (steps : List Step) : (after steps).joinKey = lastSolid Step.key? steps :=
  replaced_after rfl Step.joinKey_apply steps

theorem scope_after (steps : List Step) : (after steps).scope = lastSolid Step.scope? steps :=
  replaced_after rfl Step.scope_apply steps

theorem predicates_after (steps : List Step) :
    (after steps).predicates = allSolid Step.pushed? steps := by
  rw [after, predicates_foldl, List.nil_append, allSolid, List.filter_filterMap]
  exact List.filterMap_congr fun step _ => step.predicate?_eq

/-! ## Steps that do not show -/

variable {step : Step}

/-- A step that gives no text may be left out. -/
theorem filterMap_insert (silent : given? step = none) (before later : List Step) :
    (before ++ step :: later).filterMap given? = (before ++ later).filterMap given? := by
  simp [silent]

theorem lastSolid_insert (silent : given? step = none) (before later : List Step) :
    lastSolid given? (before ++ step :: later) = lastSolid given? (before ++ later) := by
  rw [lastSolid, lastSolid, filterMap_insert silent]

theorem predicates_insert (silent : step.pushed? = none) (before later : List Step) :
    (after (before ++ step :: later)).predicates = (after (before ++ later)).predicates := by
  rw [predicates_after, predicates_after, allSolid, allSolid, filterMap_insert silent]

theorem render_insert_scope (before later : List Step) (text : String) :
    (after (before ++ .scope text :: later)).render = (after (before ++ later)).render := by
  have key : (after (before ++ .scope text :: later)).joinKey =
      (after (before ++ later)).joinKey := by
    rw [joinKey_after, joinKey_after, lastSolid_insert rfl]
  rw [render, render, key, predicates_insert rfl]

theorem renderUncorrelated_insert_joinKey (before later : List Step) (text : String) :
    (after (before ++ .joinKey text :: later)).renderUncorrelated =
      (after (before ++ later)).renderUncorrelated := by
  have scope : (after (before ++ .joinKey text :: later)).scope =
      (after (before ++ later)).scope := by
    rw [scope_after, scope_after, lastSolid_insert rfl]
  rw [renderUncorrelated, renderUncorrelated, scope, predicates_insert rfl]

/-! ## Texts of lists -/

/-- How a text that is not blank is made up of some conditions. -/
structure IsConjunctionOf (text : String) (parts : List String) : Prop where
  /-- Without conditions, the text always holds. -/
  none : parts = [] → text = "1>0"
  joined : parts ≠ [] → text = " AND ".intercalate parts
  solid : Text.isBlank text = false

theorem isConjunctionOf_conjunction {parts : List String}
    (solid : ∀ part ∈ parts, Text.isBlank part = false) :
    IsConjunctionOf (conjunction parts) parts where
  none empty := if_pos empty
  joined nonempty := if_neg nonempty
  solid := isBlank_conjunction solid

/-- What a list of conditions holds and is written as, whatever steps it was built up in. None of
its conditions is blank. It has the join key and the scope that it was given last, unless that text
was blank, and all predicates that are not, in order. These are what its text is made up of: the
predicates behind the join key or, where the parent cannot be seen, behind the scope. A scope never
shows beside the join key, nor a join key beside the scope. -/
theorem after_reflects_steps (steps : List Step) :
    (after steps).Solid ∧
      (after steps).joinKey = lastSolid Step.key? steps ∧
      (after steps).scope = lastSolid Step.scope? steps ∧
      (after steps).predicates = allSolid Step.pushed? steps ∧
      IsConjunctionOf (after steps).render
        ((after steps).joinKey.toList ++ (after steps).predicates) ∧
      IsConjunctionOf (after steps).renderUncorrelated
        ((after steps).scope.toList ++ (after steps).predicates) ∧
      ((after steps).isEmpty = true ↔
        (after steps).joinKey.toList ++ (after steps).predicates = []) ∧
      ∀ (text : String) (later : List Step),
        (after (steps ++ .scope text :: later)).render = (after (steps ++ later)).render ∧
        (after (steps ++ .joinKey text :: later)).renderUncorrelated =
          (after (steps ++ later)).renderUncorrelated := by
  have solid := solid_after steps
  refine ⟨solid, joinKey_after steps, scope_after steps, predicates_after steps,
    isConjunctionOf_conjunction solid.correlated, isConjunctionOf_conjunction solid.uncorrelated,
    isEmpty_iff (after steps), fun text later => ⟨?_, ?_⟩⟩
  · exact render_insert_scope steps later text
  · exact renderUncorrelated_insert_joinKey steps later text

/-- A blank text takes the join key away. -/
example :
    after [.joinKey "a", .push (some "\u3000"), .scope "b", .push (some "c"), .joinKey " "] =
      { scope := some "b", predicates := ["c"] } := by
  decide

end Conditions

end PagedJoins
