import Mathlib.Data.List.Chain
import Mathlib.Data.List.Forall2
import PagedJoins.Page.Seek
import PagedJoins.Proofs.Value.ExactOrder

/-!
# The order of rows

A sort key orders rows by the first column in which they differ, up or down as its
direction says. Among rows whose columns compare exactly this is a strict order, turning
the directions round turns it round, and a seek admits just the rows that come after the
one that it marks.
-/

namespace PagedJoins

/-- How a value compares with one that comes after it in a direction. -/
def Direction.rising : Direction → Ordering
  | asc => .lt
  | desc => .gt

/-- Does the first row come strictly before the second in the order of some columns? -/
def Precedes : List SortColumn → List Value → List Value → Prop
  | sort :: columns, a :: row, b :: row' =>
    a.sqlCompare b = some sort.direction.rising ∨
      (a.sqlCompare b = some .eq ∧ Precedes columns row row')
  | _, _, _ => False

instance decidablePrecedes : (columns : List SortColumn) → (row row' : List Value) →
    Decidable (Precedes columns row row')
  | _ :: columns, _ :: row, _ :: row' =>
    have := decidablePrecedes columns row row'
    inferInstanceAs (Decidable (_ ∨ (_ ∧ _)))
  | [], _, _ => isFalse id
  | _ :: _, [], _ => isFalse id
  | _ :: _, _ :: _, [] => isFalse id

/-- Has the row one value of each of these kinds, in order, and do all the kinds compare
exactly? -/
def FitsExactly (kinds : List ValueKind) (row : List Value) : Prop :=
  List.Forall₂ (fun kind value => value.kind = kind ∧ kind.isExact = true) kinds row

instance (kinds : List ValueKind) (row : List Value) : Decidable (FitsExactly kinds row) :=
  inferInstanceAs (Decidable (List.Forall₂ _ _ _))

theorem FitsExactly.kind_ne_float {kinds : List ValueKind} {row : List Value}
    (fits : FitsExactly kinds row) : ∀ value ∈ row, value.kind ≠ .float := by
  intro value member isFloat
  obtain ⟨place, inside, rfl⟩ := List.mem_iff_getElem.mp member
  have fit := (List.forall₂_iff_get.mp fits).2 place (fits.length_eq ▸ inside) inside
  rw [List.get_eq_getElem, List.get_eq_getElem, isFloat] at fit
  rw [← fit.1] at fit
  cases fit.2

namespace Precedes

/-! ## One column -/

/-- The comparison of two values of a column, turned round for a falling one. -/
def compareColumn : Direction → Value → Value → Ordering
  | .asc, a, b => a.compareRank b
  | .desc, a, b => b.compareRank a

instance (direction : Direction) : Std.TransCmp (compareColumn direction) where
  eq_swap := by
    intro a b
    cases direction with
    | asc => exact (Std.OrientedCmp.eq_swap : a.compareRank b = _)
    | desc => exact (Std.OrientedCmp.eq_swap : b.compareRank a = _)
  isLE_trans := by
    intro a b c first second
    cases direction with
    | asc => exact (Std.TransCmp.isLE_trans first second : (a.compareRank c).isLE)
    | desc => exact (Std.TransCmp.isLE_trans second first : (c.compareRank a).isLE)

variable {kinds : List ValueKind} {columns : List SortColumn}
variable {a b : Value} {row row' row'' : List Value}

theorem sqlCompare_eq_rising_iff (exactKind : a.kind.isExact = true) (same : b.kind = a.kind)
    (direction : Direction) :
    a.sqlCompare b = some direction.rising ↔ compareColumn direction a b = .lt := by
  rw [Value.sqlCompare_of_isExact exactKind same.symm, Option.some_inj]
  cases direction with
  | asc => rfl
  | desc => exact Std.OrientedCmp.gt_iff_lt

theorem sqlCompare_eq_eq_iff (exactKind : a.kind.isExact = true) (same : b.kind = a.kind)
    (direction : Direction) :
    a.sqlCompare b = some .eq ↔ compareColumn direction a b = .eq := by
  rw [Value.sqlCompare_of_isExact exactKind same.symm, Option.some_inj]
  cases direction with
  | asc => rfl
  | desc => exact Std.OrientedCmp.eq_comm

theorem compareColumn_reverse (direction : Direction) (a b : Value) :
    compareColumn direction.reverse a b = compareColumn direction b a := by
  cases direction <;> rfl

/-! ## Whole rows -/

theorem cons_iff {sort : SortColumn} (exactKind : a.kind.isExact = true)
    (same : b.kind = a.kind) :
    Precedes (sort :: columns) (a :: row) (b :: row') ↔
      compareColumn sort.direction a b = .lt ∨
        (compareColumn sort.direction a b = .eq ∧ Precedes columns row row') := by
  rw [Precedes, sqlCompare_eq_rising_iff exactKind same,
    sqlCompare_eq_eq_iff exactKind same sort.direction]

theorem trans (fits : FitsExactly kinds row) (fits' : FitsExactly kinds row')
    (fits'' : FitsExactly kinds row'') (first : Precedes columns row row')
    (second : Precedes columns row' row'') : Precedes columns row row'' := by
  induction columns generalizing kinds row row' row'' with
  | nil => exact first.elim
  | cons sort columns ih =>
      cases fits with
      | nil => exact first.elim
      | cons head tail =>
          cases fits' with
          | cons head' tail' =>
              cases fits'' with
              | cons head'' tail'' =>
                  obtain ⟨rfl, exactKind⟩ := head
                  rw [cons_iff exactKind head'.1] at first
                  rw [cons_iff (by rw [head'.1]; exact exactKind) (by rw [head''.1, head'.1])]
                    at second
                  rw [cons_iff exactKind head''.1]
                  rcases first with falls | ⟨ties, before⟩
                  · rcases second with falls' | ⟨ties', before'⟩
                    · exact .inl (Std.TransCmp.lt_trans falls falls')
                    · exact .inl (Std.TransCmp.lt_of_lt_of_eq falls ties')
                  · rcases second with falls' | ⟨ties', before'⟩
                    · exact .inl (Std.TransCmp.lt_of_eq_of_lt ties falls')
                    · exact .inr ⟨Std.TransCmp.eq_trans ties ties',
                        ih tail tail' tail'' before before'⟩

theorem irrefl (fits : FitsExactly kinds row) : ¬ Precedes columns row row := by
  induction columns generalizing kinds row with
  | nil => exact id
  | cons sort columns ih =>
      cases fits with
      | nil => exact id
      | cons head tail =>
          obtain ⟨rfl, exactKind⟩ := head
          rw [cons_iff exactKind rfl]
          rintro (falls | ⟨ties, before⟩)
          · exact Std.OrientedCmp.not_lt_of_lt falls falls
          · exact ih tail before

theorem asymm (fits : FitsExactly kinds row) (fits' : FitsExactly kinds row')
    (first : Precedes columns row row') : ¬ Precedes columns row' row := by
  intro second
  exact irrefl fits (trans fits fits' fits first second)

/-- Turning all directions round turns the order of rows round. -/
theorem reverse_iff (fits : FitsExactly kinds row) (fits' : FitsExactly kinds row') :
    Precedes (columns.map SortColumn.reverse) row row' ↔ Precedes columns row' row := by
  induction columns generalizing kinds row row' with
  | nil => exact Iff.rfl
  | cons sort columns ih =>
      cases fits with
      | nil =>
          cases fits'
          exact Iff.rfl
      | cons head tail =>
          cases fits' with
          | cons head' tail' =>
              obtain ⟨rfl, exactKind⟩ := head
              have exactKind' := exactKind
              rw [← head'.1] at exactKind'
              rw [List.map_cons, cons_iff exactKind head'.1, cons_iff exactKind' head'.1.symm,
                ih tail tail', SortColumn.reverse, compareColumn_reverse]

/-- A value that comes after another one in a direction is admitted, one that comes before is
not, and one that compares as equal leaves the choice to the other columns. -/
theorem admitsFrom_cons {sort : SortColumn} (exactKind : a.kind.isExact = true)
    (same : b.kind = a.kind) :
    Seek.admitsFrom (sort :: columns) (a :: row) (b :: row') = true ↔
      compareColumn sort.direction a b = .lt ∨
        (compareColumn sort.direction a b = .eq ∧
          Seek.admitsFrom columns row row' = true) := by
  have exactKind' := exactKind
  rw [← same] at exactKind'
  have swap : b.compareRank a = (a.compareRank b).swap := Std.OrientedCmp.eq_swap
  rw [Seek.admitsFrom, Value.sqlCompare_of_isExact exactKind' same]
  cases sort.direction <;> simp only [compareColumn, swap] <;>
    cases a.compareRank b <;> simp

/-- A seek admits the rows that come after the one that it marks, and no others. -/
theorem admitsFrom_iff (fits : FitsExactly kinds row) (fits' : FitsExactly kinds row') :
    Seek.admitsFrom columns row row' = true ↔ Precedes columns row row' := by
  induction columns generalizing kinds row row' with
  | nil => exact ⟨nofun, False.elim⟩
  | cons sort columns ih =>
      cases fits with
      | nil =>
          cases fits'
          exact ⟨nofun, False.elim⟩
      | cons head tail =>
          cases fits' with
          | cons head' tail' =>
              obtain ⟨rfl, exactKind⟩ := head
              rw [admitsFrom_cons exactKind head'.1, cons_iff exactKind head'.1, ih tail tail']

/-- If of any two neighbours the first comes before the second, then so it is with any two
rows. -/
theorem pairwise_of_isChain {rows : List (List Value)}
    (fits : ∀ row ∈ rows, FitsExactly kinds row) (sorted : rows.IsChain (Precedes columns)) :
    rows.Pairwise (Precedes columns) := by
  let among : List Value → List Value → Prop :=
    fun row row' => row ∈ rows ∧ row' ∈ rows ∧ Precedes columns row row'
  have transitive : IsTrans (List Value) among := by
    constructor
    intro row row' row'' first second
    exact ⟨first.1, second.2.1, trans (fits _ first.1) (fits _ first.2.1) (fits _ second.2.1)
      first.2.2 second.2.2⟩
  have sortedAmong : rows.IsChain among := List.IsChain.iff_mem.mp sorted
  exact (List.isChain_iff_pairwise.mp sortedAmong).imp fun both => both.2.2

end Precedes

end PagedJoins
