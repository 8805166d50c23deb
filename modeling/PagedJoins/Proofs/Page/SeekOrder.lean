import PagedJoins.Proofs.Page.RowOrder
import PagedJoins.Proofs.Value.Order

/-!
# The order of seeks

What a seek admits is an order of rows: no row is past itself, and a row is past another one in the
order turned round just if the other is past it in the order as it stands, so that paging backward
is the converse of paging forward. This holds of all rows, also where comparisons are unknown. Among
rows of exact kinds the order is transitive, and of two rows one is past the other unless they tie
in every column.
-/

namespace PagedJoins.Seek

variable {columns : List SortColumn} {v r : List Value}

/-- The seek past a row with these sort-key values in an order. -/
def after (order : Order) (values : List Value) : Seek where
  table := order.table
  columns := order.columns
  values := values

/-- Do two rows compare as equal in each of the columns? -/
def Ties : List SortColumn → List Value → List Value → Prop
  | _ :: columns, a :: v, b :: r => a.sqlCompare b = some .eq ∧ Ties columns v r
  | _, _, _ => True

/-! ## All rows -/

/-- Turning the directions round exchanges the row that is marked and the row that is admitted. -/
theorem admitsFrom_reverse (columns : List SortColumn) (v r : List Value) :
    admitsFrom (columns.map SortColumn.reverse) v r = admitsFrom columns r v := by
  induction columns generalizing v r with
  | nil => rfl
  | cons sort columns ih =>
      cases v with
      | nil => cases r <;> rfl
      | cons a v =>
          cases r with
          | nil => rfl
          | cons b r =>
              obtain ⟨column, direction⟩ := sort
              rw [List.map_cons, admitsFrom, admitsFrom, Value.sqlCompare_swap a b]
              cases a.sqlCompare b with
              | none => rfl
              | some outcome =>
                  cases outcome with
                  | eq => exact ih v r
                  | lt => cases direction <;> rfl
                  | gt => cases direction <;> rfl

theorem admitsFrom_of_ties (ties : Ties columns v r) : admitsFrom columns v r = false := by
  induction columns generalizing v r with
  | nil => rfl
  | cons sort columns ih =>
      cases v with
      | nil => rfl
      | cons a v =>
          cases r with
          | nil => rfl
          | cons b r =>
              rw [admitsFrom, Value.sqlCompare_swap a b, ties.1]
              exact ih ties.2

theorem admitsFrom_self (columns : List SortColumn) (v : List Value) :
    admitsFrom columns v v = false := by
  induction columns generalizing v with
  | nil => rfl
  | cons sort columns ih =>
      cases v with
      | nil => rfl
      | cons a v =>
          rw [admitsFrom]
          rcases a.sqlCompare_self with equal | unknown
          · rw [equal]
            exact ih v
          · rw [unknown]

theorem Ties.symm (ties : Ties columns v r) : Ties columns r v := by
  induction columns generalizing v r with
  | nil => trivial
  | cons sort columns ih =>
      cases v with
      | nil => cases r <;> trivial
      | cons a v =>
          cases r with
          | nil => trivial
          | cons b r =>
              refine ⟨?_, ih ties.2⟩
              rw [Value.sqlCompare_swap a b, ties.1]
              rfl

/-! ## Rows of exact kinds -/

variable {kinds : List ValueKind}

/-- Of two rows of the same exact kinds one comes before the other, or they tie. -/
theorem precedes_or_ties (fits : FitsExactly kinds v) (fits' : FitsExactly kinds r) :
    Precedes columns v r ∨ Precedes columns r v ∨ Ties columns v r := by
  induction columns generalizing kinds v r with
  | nil => exact .inr (.inr trivial)
  | cons sort columns ih =>
      cases fits with
      | nil => exact .inr (.inr trivial)
      | cons head tail =>
          cases fits' with
          | cons head' tail' =>
              obtain ⟨rfl, exactKind⟩ := head
              have exactKind' := exactKind
              rw [← head'.1] at exactKind'
              rw [Precedes.cons_iff exactKind head'.1, Precedes.cons_iff exactKind' head'.1.symm,
                Ties, Precedes.sqlCompare_eq_eq_iff exactKind head'.1 sort.direction]
              cases outcome : Precedes.compareColumn sort.direction _ _ with
              | lt => exact .inl (.inl rfl)
              | gt => exact .inr (.inl (.inl (Std.OrientedCmp.gt_iff_lt.mp outcome)))
              | eq =>
                  have swapped := Std.OrientedCmp.eq_comm.mp outcome
                  rcases ih tail tail' with before | behind | ties
                  · exact .inl (.inr ⟨rfl, before⟩)
                  · exact .inr (.inl (.inr ⟨swapped, behind⟩))
                  · exact .inr (.inr ⟨rfl, ties⟩)

/-- Of two rows of the same exact kinds, either one is past the other or they tie. -/
theorem admitsFrom_trichotomy (columns : List SortColumn) (fits : FitsExactly kinds v)
    (fits' : FitsExactly kinds r) :
    (admitsFrom columns v r = true ∧ admitsFrom columns r v = false ∧ ¬ Ties columns v r) ∨
      (admitsFrom columns v r = false ∧ admitsFrom columns r v = true ∧ ¬ Ties columns v r) ∨
      (admitsFrom columns v r = false ∧ admitsFrom columns r v = false ∧ Ties columns v r) := by
  have past : ∀ {v r}, FitsExactly kinds v → FitsExactly kinds r → Precedes columns v r →
      admitsFrom columns v r = true ∧ admitsFrom columns r v = false := by
    intro v r fits fits' before
    refine ⟨(Precedes.admitsFrom_iff fits fits').mpr before, eq_false_of_ne_true ?_⟩
    exact mt (Precedes.admitsFrom_iff fits' fits).mp (Precedes.asymm fits fits' before)
  have apart : ∀ {v r}, admitsFrom columns v r = true → ¬ Ties columns v r := by
    intro v r admitted ties
    exact absurd admitted (ne_true_of_eq_false (admitsFrom_of_ties ties))
  rcases precedes_or_ties fits fits' with before | behind | ties
  · obtain ⟨admitted, refused⟩ := past fits fits' before
    exact .inl ⟨admitted, refused, apart admitted⟩
  · obtain ⟨admitted, refused⟩ := past fits' fits behind
    exact .inr (.inl ⟨refused, admitted, fun ties => apart admitted ties.symm⟩)
  · exact .inr (.inr ⟨admitsFrom_of_ties ties, admitsFrom_of_ties ties.symm, ties⟩)

/-- What a seek admits is a strict order of rows, and the order turned round gives its converse.
This converse and irreflexivity hold of all rows; rows of the same exact kinds are also in a
transitive order, in which of any two either one is past the other or they tie in all columns. -/
theorem admits_strictly_orders (order : Order) :
    (∀ v r : List Value, (after order.reversed v).admits r = (after order r).admits v) ∧
    (∀ v : List Value, (after order v).admits v = false) ∧
    ∀ (kinds : List ValueKind) (v r s : List Value),
      FitsExactly kinds v → FitsExactly kinds r → FitsExactly kinds s →
        ((after order v).admits r = true → (after order r).admits s = true →
          (after order v).admits s = true) ∧
        (((after order v).admits r = true ∧ (after order r).admits v = false ∧
            ¬ Ties order.columns v r) ∨
          ((after order v).admits r = false ∧ (after order r).admits v = true ∧
            ¬ Ties order.columns v r) ∨
          ((after order v).admits r = false ∧ (after order r).admits v = false ∧
            Ties order.columns v r)) := by
  refine ⟨admitsFrom_reverse order.columns, admitsFrom_self order.columns, ?_⟩
  intro kinds v r s fits fits' fits''
  refine ⟨fun first second => ?_, admitsFrom_trichotomy order.columns fits fits'⟩
  have before := (Precedes.admitsFrom_iff fits fits').mp first
  have before' := (Precedes.admitsFrom_iff fits' fits'').mp second
  exact (Precedes.admitsFrom_iff fits fits'').mpr (Precedes.trans fits fits' fits'' before before')

/-- Three rows with ties in the first column, which rises, and a second one that falls. -/
theorem admits_strictly_orders_mixed :
    (after ⟨"p", [⟨"name", .asc⟩, ⟨"id", .desc⟩]⟩
        [.text "b", .integer .regular ⟨7, by decide⟩]).admits
      [.text "c", .integer .big ⟨9, by decide⟩] = true ∧
    (after ⟨"p", [⟨"name", .desc⟩, ⟨"id", .asc⟩]⟩
        [.text "c", .integer .big ⟨9, by decide⟩]).admits
      [.text "b", .integer .regular ⟨7, by decide⟩] = true := by
  have fits : ∀ row ∈ [[Value.text "b", .integer .regular ⟨7, by decide⟩],
      [.text "b", .integer .tiny ⟨-3, by decide⟩], [.text "c", .integer .big ⟨9, by decide⟩]],
      FitsExactly [.text, .integer] row := by
    decide +kernel
  obtain ⟨converse, -, ordered⟩ :=
    admits_strictly_orders ⟨"p", [⟨"name", .asc⟩, ⟨"id", .desc⟩]⟩
  obtain ⟨chain, -⟩ := ordered _ _ _ _ (fits _ (.head _)) (fits _ (.tail _ (.head _)))
    (fits _ (.tail _ (.tail _ (.head _))))
  have past := chain (by decide +kernel) (by decide +kernel)
  exact ⟨past, (converse _ _).trans past⟩

end PagedJoins.Seek
