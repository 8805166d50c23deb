import PagedJoins.Page.Seek

/-!
# The truth of conditions

A comparison of SQL is true, false or unknown, and the connectives carry the unknown on
unless the other side decides. Rows are compared by the first place in which they differ;
if the comparison is unknown there, so is that of the rows.

A condition that steps from column to column and one that compares whole rows have the
same truth, that of the first outcome which is not a tie.
-/

namespace PagedJoins

/-- The three truth values of SQL. -/
inductive Truth where
  | yes
  | no
  | unknown
  deriving DecidableEq, Repr

namespace Truth

/-- The truth of something that is known. -/
def ofBool (b : Bool) : Truth :=
  if b then yes else no

/-- Both hold. -/
def and : Truth → Truth → Truth
  | no, _ => no
  | _, no => no
  | yes, yes => yes
  | _, _ => unknown

/-- At least one holds. -/
def or : Truth → Truth → Truth
  | yes, _ => yes
  | _, yes => yes
  | no, no => no
  | _, _ => unknown

@[simp] theorem no_and (truth : Truth) : no.and truth = no := by
  cases truth <;> rfl

@[simp] theorem yes_and (truth : Truth) : yes.and truth = truth := by
  cases truth <;> rfl

@[simp] theorem no_or (truth : Truth) : no.or truth = truth := by
  cases truth <;> rfl

@[simp] theorem or_no (truth : Truth) : truth.or no = truth := by
  cases truth <;> rfl

theorem and_eq_yes {left right : Truth} : left.and right = yes ↔ left = yes ∧ right = yes := by
  cases left <;> cases right <;> decide

theorem or_eq_yes {left right : Truth} : left.or right = yes ↔ left = yes ∨ right = yes := by
  cases left <;> cases right <;> decide

@[simp] theorem unknown_or_unknown_and (truth : Truth) :
    unknown.or (unknown.and truth) = unknown := by
  cases truth <;> rfl

end Truth

namespace Comparator

/-- Does the operator hold of two things that compare like this? -/
def holds : Comparator → Ordering → Bool
  | less, outcome => outcome = .lt
  | equal, outcome => outcome = .eq
  | greater, outcome => outcome = .gt

/-- The truth of a comparison with a given outcome. -/
def truth (operator : Comparator) : Option Ordering → Truth
  | some outcome => .ofBool (operator.holds outcome)
  | none => .unknown

/-- The truth of a comparison of two rows with the outcomes of their places. Rows are equal if
all places are; another operator asks for the first place that is no tie. -/
def rowTruth : Comparator → List (Option Ordering) → Truth
  | equal, outcomes => outcomes.foldr (fun outcome truth => (equal.truth outcome).and truth) .yes
  | _, [] => .no
  | operator, some .eq :: outcomes => operator.rowTruth outcomes
  | operator, outcome :: _ => operator.truth outcome

end Comparator

namespace Condition

variable {γ δ : Type}

/-- The truth of a condition, given the outcomes of the comparisons. -/
def truth (outcome : γ → δ → Option Ordering) : Condition γ δ → Truth
  | compare left operator right => operator.truth (outcome left right)
  | compareRows left operator right => operator.rowTruth (List.zipWith outcome left right)
  | and left right => (left.truth outcome).and (right.truth outcome)
  | or left right => (left.truth outcome).or (right.truth outcome)

/-- What is compared with what, from left to right. -/
def comparisons : Condition γ δ → List (γ × δ)
  | compare left _ right => [(left, right)]
  | compareRows left _ right => left.zip right
  | and left right => left.comparisons ++ right.comparisons
  | or left right => left.comparisons ++ right.comparisons

/-- Has every row of the condition a place? -/
def HasPlaces : Condition γ δ → Prop
  | compare .. => True
  | compareRows left _ right => left ≠ [] ∧ right ≠ []
  | and left right => left.HasPlaces ∧ right.HasPlaces
  | or left right => left.HasPlaces ∧ right.HasPlaces

theorem HasPlaces.map {γ' δ' : Type} {condition : Condition γ δ} (places : condition.HasPlaces)
    (f : γ → γ') (g : δ → δ') : (condition.map f g).HasPlaces := by
  induction condition with
  | compare left comparator right => exact trivial
  | compareRows left comparator right =>
      exact ⟨fun none => places.1 (List.map_eq_nil_iff.mp none),
        fun none => places.2 (List.map_eq_nil_iff.mp none)⟩
  | and left right ihLeft ihRight => exact ⟨ihLeft places.1, ihRight places.2⟩
  | or left right ihLeft ihRight => exact ⟨ihLeft places.1, ihRight places.2⟩

end Condition

namespace Seek

/-- The truth that a row is past another one, given how its columns compare: the first column
that is no tie decides. -/
def pastTruth : List (Direction × Option Ordering) → Truth
  | [] => .no
  | (_, some .eq) :: rest => pastTruth rest
  | (direction, outcome) :: _ => (past direction).truth outcome

theorem step_truth (direction : Direction) (outcome : Option Ordering)
    (rest : List (Direction × Option Ordering)) :
    ((past direction).truth outcome).or ((Comparator.equal.truth outcome).and (pastTruth rest)) =
      pastTruth ((direction, outcome) :: rest) := by
  cases outcome with
  | none => exact Truth.unknown_or_unknown_and _
  | some ordering =>
      cases direction <;> cases ordering <;>
        simp [past, Comparator.truth, Comparator.holds, Truth.ofBool, pastTruth]

theorem last_truth (direction : Direction) (outcome : Option Ordering) :
    (past direction).truth outcome = pastTruth [(direction, outcome)] := by
  cases outcome with
  | none => rfl
  | some ordering => cases direction <;> cases ordering <;> rfl

/-- Whole rows are past each other as their columns are one by one. -/
theorem rowTruth_past (direction : Direction) (outcomes : List (Option Ordering)) :
    (past direction).rowTruth outcomes = pastTruth (outcomes.map (direction, ·)) := by
  induction outcomes with
  | nil => cases direction <;> rfl
  | cons outcome outcomes ih =>
      rw [List.map_cons]
      cases outcome with
      | none => cases direction <;> rfl
      | some ordering =>
          cases ordering with
          | eq =>
              rw [pastTruth, ← ih]
              cases direction <;> rfl
          | lt => cases direction <;> rfl
          | gt => cases direction <;> rfl

variable {γ δ : Type}

/-- The outcomes of the columns, each with the direction of its column. -/
def outcomes (outcome : γ → δ → Option Ordering) (columns : List (γ × Direction))
    (bounds : List δ) : List (Direction × Option Ordering) :=
  List.zipWith (fun column bound => (column.2, outcome column.1 bound)) columns bounds

/-- A condition on columns and their bounds: it compares columns with their own bounds only, and
its truth is that of the first column that is no tie. -/
structure Describes (condition : Condition γ δ) (columns : List (γ × Direction))
    (bounds : List δ) : Prop where
  places : condition.HasPlaces
  comparisons : ∀ pair ∈ condition.comparisons, pair ∈ (columns.map Prod.fst).zip bounds
  truth : ∀ outcome, condition.truth outcome = pastTruth (outcomes outcome columns bounds)

theorem stepwise?_cons_cons (column : γ) (direction : Direction) (next : γ × Direction)
    (columns : List (γ × Direction)) (bound : δ) (bounds : List δ) :
    stepwise? ((column, direction) :: next :: columns) (bound :: bounds) =
      (stepwise? (next :: columns) bounds).map fun rest =>
        .or (.compare column (past direction) bound)
          (.and (.compare column .equal bound) rest) := by
  rw [stepwise?, Option.map_eq_bind]
  · rfl
  · exact nofun

/-- There is a stepwise condition on columns with as many bounds. -/
theorem stepwise?_describes {columns : List (γ × Direction)} {bounds : List δ}
    (nonempty : columns ≠ []) (same : bounds.length = columns.length) :
    ∃ condition, stepwise? columns bounds = some condition ∧
      Describes condition columns bounds := by
  induction columns generalizing bounds with
  | nil => exact absurd rfl nonempty
  | cons column columns ih =>
      obtain ⟨column, direction⟩ := column
      cases bounds with
      | nil => cases same
      | cons bound bounds =>
          cases columns with
          | nil =>
              obtain rfl : bounds = [] := List.length_eq_zero_iff.mp (Nat.succ.inj same)
              refine ⟨.compare column (past direction) bound, rfl, trivial, ?_, ?_⟩
              · exact fun pair member => member
              · exact fun outcome => last_truth direction (outcome column bound)
          | cons next columns =>
              obtain ⟨rest, built, described⟩ := ih (List.cons_ne_nil _ _) (Nat.succ.inj same)
              refine ⟨.or (.compare column (past direction) bound)
                (.and (.compare column .equal bound) rest), ?_, ?_, ?_, ?_⟩
              · rw [stepwise?_cons_cons, built]
                rfl
              · exact ⟨trivial, trivial, described.places⟩
              · intro pair member
                rw [List.map_cons, List.zip_cons_cons]
                rcases List.mem_append.mp member with first | later
                · exact List.mem_cons.mpr (.inl (List.mem_singleton.mp first))
                · rcases List.mem_append.mp later with first | later
                  · exact List.mem_cons.mpr (.inl (List.mem_singleton.mp first))
                  · exact List.mem_cons.mpr (.inr (described.comparisons pair later))
              · intro outcome
                rw [Condition.truth, Condition.truth, Condition.truth, Condition.truth,
                  described.truth]
                exact step_truth direction (outcome column bound) _

theorem outcomes_of_uniform (outcome : γ → δ → Option Ordering) {direction : Direction}
    {columns : List (γ × Direction)} (uniform : ∀ column ∈ columns, column.2 = direction)
    (bounds : List δ) :
    outcomes outcome columns bounds =
      (List.zipWith outcome (columns.map Prod.fst) bounds).map (direction, ·) := by
  induction columns generalizing bounds with
  | nil => rfl
  | cons column columns ih =>
      cases bounds with
      | nil => rfl
      | cons bound bounds =>
          have rest := ih (fun other member => uniform other (List.mem_cons_of_mem _ member)) bounds
          rw [outcomes] at rest ⊢
          rw [List.map_cons, List.zipWith_cons_cons, List.zipWith_cons_cons, List.map_cons, rest,
            uniform column (List.mem_cons_self ..)]

/-- Columns of one direction are past their bounds as the rows of them are. -/
theorem compareRows_describes {direction : Direction} {columns : List (γ × Direction)}
    {bounds : List δ} (nonempty : columns ≠ []) (same : bounds.length = columns.length)
    (uniform : ∀ column ∈ columns, column.2 = direction) :
    Describes (.compareRows (columns.map Prod.fst) (past direction) bounds) columns bounds where
  places := by
    refine ⟨fun none => nonempty (List.map_eq_nil_iff.mp none), ?_⟩
    rintro rfl
    exact nonempty (List.length_eq_zero_iff.mp same.symm)
  comparisons := fun pair member => member
  truth := by
    intro outcome
    rw [Condition.truth, rowTruth_past, outcomes_of_uniform outcome uniform]

/-- There is a condition on columns with as many bounds, whether rows are compared or not. -/
theorem condition?_describes (comparesRows : Bool) {columns : List (γ × Direction)}
    {bounds : List δ} (nonempty : columns ≠ []) (same : bounds.length = columns.length) :
    ∃ condition, condition? comparesRows columns bounds = some condition ∧
      Describes condition columns bounds := by
  unfold condition?
  split
  · rename_i direction next rest
    split
    · rename_i uniform
      refine ⟨_, rfl, compareRows_describes nonempty same ?_⟩
      intro column member
      exact of_decide_eq_true (List.all_eq_true.mp uniform.2 column member)
    · exact stepwise?_describes nonempty same
  · exact stepwise?_describes nonempty same

end Seek

end PagedJoins
