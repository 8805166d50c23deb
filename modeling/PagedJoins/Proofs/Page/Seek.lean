import Mathlib.Data.List.FinRange
import PagedJoins.Proofs.Sql.Reading

/-!
# Seeks in statements and in memory

The text of a seek, read as a condition and evaluated with the values of a row, is true of
just the rows that the seek admits, in every dialect. The condition is built over the
positions of the columns, so that it is the same whether texts or values are put in.
-/

namespace PagedJoins.Seek

variable {γ δ γ' δ' : Type}

/-! ## Conditions over other things -/

/-- Putting other things in for columns and bounds goes along with building the stepwise
condition. -/
theorem stepwise?_map (f : γ → γ') (g : δ → δ') (columns : List (γ × Direction))
    (bounds : List δ) :
    stepwise? (columns.map (Prod.map f id)) (bounds.map g) =
      (stepwise? columns bounds).map (Condition.map f g) := by
  induction columns generalizing bounds with
  | nil => rfl
  | cons column columns ih =>
      cases bounds with
      | nil => cases columns <;> rfl
      | cons bound bounds =>
          cases columns with
          | nil => rfl
          | cons next columns =>
              have rest := ih bounds
              rw [List.map_cons] at rest
              rw [List.map_cons, List.map_cons, List.map_cons, Prod.map, stepwise?_cons_cons,
                stepwise?_cons_cons, rest, Option.map_map, Option.map_map]
              rfl

theorem condition?_map (comparesRows : Bool) (f : γ → γ') (g : δ → δ')
    (columns : List (γ × Direction)) (bounds : List δ) :
    condition? comparesRows (columns.map (Prod.map f id)) (bounds.map g) =
      (condition? comparesRows columns bounds).map (Condition.map f g) := by
  have step := stepwise?_map f g columns bounds
  cases columns with
  | nil => exact step
  | cons column columns =>
      cases columns with
      | nil => exact step
      | cons next columns =>
          obtain ⟨column, direction⟩ := column
          have directions : (((column, direction) :: next :: columns).map (Prod.map f id)).all
              (·.2 = direction) = ((column, direction) :: next :: columns).all
                (·.2 = direction) := by
            rw [List.all_map]
            rfl
          have mapped : condition? comparesRows
              (((column, direction) :: next :: columns).map (Prod.map f id)) (bounds.map g) =
                if comparesRows ∧ (((column, direction) :: next :: columns).map
                  (Prod.map f id)).all (·.2 = direction) then
                  some (.compareRows ((((column, direction) :: next :: columns).map
                    (Prod.map f id)).map (·.1)) (past direction) (bounds.map g))
                else
                  stepwise? (((column, direction) :: next :: columns).map (Prod.map f id))
                    (bounds.map g) := rfl
          rw [mapped, directions, step, condition?]
          split
          · simp [Condition.map]
          · rfl

/-! ## Rows -/

/-- How the columns of a row compare with their bounds, each with its direction. -/
def rowOutcomes (columns : List SortColumn) (bounds row : List Value) :
    List (Direction × Option Ordering) :=
  List.zipWith (fun sort outcome => (sort.direction, outcome)) columns
    (List.zipWith Value.sqlCompare row bounds)

/-- A row is admitted if the first column that is no tie lies past its bound. -/
theorem admitsFrom_iff_pastTruth (columns : List SortColumn) (bounds row : List Value) :
    admitsFrom columns bounds row = true ↔ pastTruth (rowOutcomes columns bounds row) = .yes := by
  induction columns generalizing bounds row with
  | nil => exact ⟨nofun, nofun⟩
  | cons sort columns ih =>
      cases row with
      | nil => cases bounds <;> exact ⟨nofun, nofun⟩
      | cons value row =>
          cases bounds with
          | nil => exact ⟨nofun, nofun⟩
          | cons bound bounds =>
              have rest := ih bounds row
              rw [admitsFrom]
              rw [rowOutcomes] at rest ⊢
              rw [List.zipWith_cons_cons, List.zipWith_cons_cons]
              cases value.sqlCompare bound with
              | none => exact ⟨nofun, nofun⟩
              | some outcome =>
                  cases outcome with
                  | eq => exact rest
                  | lt =>
                      cases sort.direction with
                      | asc => exact iff_of_false Bool.false_ne_true nofun
                      | desc => exact iff_of_true rfl rfl
                  | gt =>
                      cases sort.direction with
                      | asc => exact iff_of_true rfl rfl
                      | desc => exact iff_of_false Bool.false_ne_true nofun

/-! ## Positions -/

/-- The columns of a seek by their positions. -/
def positions (columns : List SortColumn) : List (Fin columns.length × Direction) :=
  (List.finRange columns.length).map fun i => (i, (columns.get i).direction)

theorem map_positions {α : Type} (columns : List SortColumn) (f : SortColumn → α) :
    (positions columns).map (Prod.map (fun i => f (columns.get i)) id) =
      columns.map fun sort => (f sort, sort.direction) := by
  apply List.ext_getElem
  · simp [positions]
  · intro i inside inside'
    simp [positions]

/-- How a value of a row compares with a bound, both by their positions. -/
def outcomeAt {columns : List SortColumn} {bounds row : List Value}
    (same : bounds.length = columns.length) (whole : row.length = columns.length)
    (i j : Fin columns.length) : Option Ordering :=
  (row.get (i.cast whole.symm)).sqlCompare (bounds.get (j.cast same.symm))

theorem outcomes_positions {columns : List SortColumn} {bounds row : List Value}
    (same : bounds.length = columns.length) (whole : row.length = columns.length) :
    outcomes (outcomeAt same whole) (positions columns) (List.finRange columns.length) =
      rowOutcomes columns bounds row := by
  apply List.ext_getElem
  · simp [outcomes, positions, rowOutcomes, same, whole]
  · intro i inside inside'
    simp [outcomes, positions, rowOutcomes, outcomeAt]

theorem map_finRange {α : Type} {columns : List SortColumn} {bounds : List Value}
    (same : bounds.length = columns.length) (g : Value → α) :
    (List.finRange columns.length).map (fun i => g (bounds.get (i.cast same.symm))) =
      bounds.map g := by
  apply List.ext_getElem
  · simp [same]
  · intro i inside inside'
    simp

theorem eq_of_mem_zip_positions {columns : List SortColumn}
    {pair : Fin columns.length × Fin columns.length}
    (member : pair ∈ ((positions columns).map Prod.fst).zip (List.finRange columns.length)) :
    pair.1 = pair.2 := by
  obtain ⟨i, inside, rfl⟩ := List.mem_iff_getElem.mp member
  simp [positions]

/-! ## The seek as a statement and in memory -/

/-- The text of a seek is its condition over positions, with names and literals put in. -/
theorem render?_eq {seek : Seek} (same : seek.values.length = seek.columns.length)
    {dialect : Dialect} {condition : Condition (Fin seek.columns.length) (Fin seek.columns.length)}
    (built : condition? dialect.comparesRows (positions seek.columns)
      (List.finRange seek.columns.length) = some condition) :
    seek.render? dialect = some (condition.map
      (fun i => dialect.qualify seek.table (seek.columns.get i).column)
      (fun i => dialect.literal (seek.values.get (i.cast same.symm)))).render := by
  have texts : condition? dialect.comparesRows
      (seek.columns.map fun sort => (dialect.qualify seek.table sort.column, sort.direction))
      (seek.values.map dialect.literal) = some (condition.map
        (fun i => dialect.qualify seek.table (seek.columns.get i).column)
        (fun i => dialect.literal (seek.values.get (i.cast same.symm)))) := by
    rw [← map_positions seek.columns fun sort => dialect.qualify seek.table sort.column,
      ← map_finRange same dialect.literal, condition?_map, built]
    rfl
  simp only [render?, texts]
  rfl

/-- The text of a seek, read as a condition, is true of a row exactly when the seek admits the
row. The condition compares every column with its own bound, and whatever the dialect, it has
the same truth, be it one that compares rows or one that steps from column to column. Only a
missing value is compared as `NULL`. -/
theorem render_selects_admitted (seek : Seek) (nonempty : seek.columns ≠ [])
    (same : seek.values.length = seek.columns.length)
    (finite : ∀ value ∈ seek.values, value.isFinite = true) :
    ∃ form : Dialect → Condition (Fin seek.columns.length) (Fin seek.columns.length),
      (∀ dialect : Dialect,
        (∃ text, seek.render? dialect = some text ∧
          dialect.readCondition text = some ((form dialect).map
            (fun i => ⟨seek.table, (seek.columns.get i).column⟩)
            (fun i => dialect.spelling (seek.values.get (i.cast same.symm))))) ∧
        (∀ pair ∈ (form dialect).comparisons, pair.1 = pair.2) ∧
        ∀ value ∈ seek.values, dialect.spelling value = .word "NULL" ↔ value = .null) ∧
      ∀ (row : List Value) (whole : row.length = seek.columns.length) (dialect : Dialect),
        ((form dialect).truth (outcomeAt same whole) = .yes ↔ seek.admits row = true) ∧
        ∀ other : Dialect, (form dialect).truth (outcomeAt same whole) =
          (form other).truth (outcomeAt same whole) := by
  have some : positions seek.columns ≠ [] := by
    intro none
    exact nonempty (List.length_eq_zero_iff.mp (by simpa [positions] using none))
  have long : (List.finRange seek.columns.length).length = (positions seek.columns).length := by
    simp [positions]
  choose form built described using fun dialect : Dialect =>
    condition?_describes dialect.comparesRows some long
  have decided : ∀ (row : List Value) (whole : row.length = seek.columns.length)
      (dialect : Dialect), (form dialect).truth (outcomeAt same whole) =
        pastTruth (rowOutcomes seek.columns seek.values row) := by
    intro row whole dialect
    rw [(described dialect).truth, outcomes_positions]
  refine ⟨form, ?_, ?_⟩
  · intro dialect
    have read := @Dialect.readCondition_render dialect _ _
      (fun i => (⟨seek.table, (seek.columns.get i).column⟩ : QualifiedName))
      (fun i => seek.values.get (i.cast same.symm))
      (fun i => finite _ (List.get_mem ..)) _ (described dialect).places
    refine ⟨⟨_, render?_eq same (built dialect), read⟩, ?_, ?_⟩
    · intro pair member
      exact eq_of_mem_zip_positions ((described dialect).comparisons pair member)
    · intro value member
      exact Dialect.spelling_eq_null_iff (finite value member)
  · intro row whole dialect
    rw [decided row whole dialect]
    constructor
    · exact (admitsFrom_iff_pastTruth seek.columns seek.values row).symm
    · exact fun other => (decided row whole other).symm

/-- Past number 5 and, among the rows of number 5, past the name `o'hara` downward. -/
def mixed : Seek where
  table := "t"
  columns := [⟨"number", .asc⟩, ⟨"na\"me", .desc⟩]
  values := [.integer .regular ⟨5, by decide⟩, .text "o'hara"]

/-- The mixed seek is true of a row that it admits in every dialect, and of a row with a missing
name in none. -/
theorem render_selects_admitted_mixed :
    mixed.columns ≠ [] ∧ (∀ value ∈ mixed.values, value.isFinite = true) ∧
      ∃ (same : mixed.values.length = mixed.columns.length)
        (form : Dialect → Condition (Fin mixed.columns.length) (Fin mixed.columns.length)),
        ∀ dialect : Dialect,
          (∃ text, mixed.render? dialect = some text ∧
            (dialect.readCondition text).isSome = true) ∧
          (form dialect).truth (outcomeAt same
            (rfl : [Value.integer .big ⟨5, by decide⟩, .text "ada"].length = _)) = .yes ∧
          (form dialect).truth (outcomeAt same
            (rfl : [Value.integer .big ⟨5, by decide⟩, .null].length = _)) ≠ .yes := by
  have finite : ∀ value ∈ mixed.values, value.isFinite = true := by decide
  obtain ⟨form, texts, rows⟩ := render_selects_admitted mixed (by decide) rfl finite
  refine ⟨by decide, finite, rfl, form, ?_⟩
  intro dialect
  refine ⟨?_, ?_, ?_⟩
  · obtain ⟨text, written, read⟩ := (texts dialect).1
    exact ⟨text, written, by rw [read]; rfl⟩
  · exact (rows _ rfl dialect).1.mpr (by decide)
  · intro selected
    exact absurd ((rows _ rfl dialect).1.mp selected) (by decide)

end PagedJoins.Seek
