import PagedJoins.Sql.Condition
import PagedJoins.Sql.Order
import PagedJoins.Sql.Literal
import PagedJoins.Value.Order

/-!
# Seeking past a row

The rows that come after a given row in an order: at the first column in which they differ
from it, they lie on the far side of it. The same set is described by a condition of a
statement and by a test of a row's values.
-/

namespace PagedJoins

/-- The values that mark a row, and the columns that they belong to. -/
structure Seek where
  table : String
  columns : List SortColumn
  values : List Value
  deriving DecidableEq, Repr

namespace Seek

/-- The operator that leads past a value in a direction. -/
def past : Direction → Comparator
  | .asc => .greater
  | .desc => .less

/-- The condition that compares column by column: either this column is past its bound, or it
is equal to it and the remaining columns are past theirs. It needs a column, and a bound
for each. -/
def stepwise? {γ δ : Type} : List (γ × Direction) → List δ → Option (Condition γ δ)
  | [(column, direction)], bound :: _ => some (.compare column (past direction) bound)
  | (column, direction) :: columns, bound :: bounds => do
    let rest ← stepwise? columns bounds
    return .or (.compare column (past direction) bound)
      (.and (.compare column .equal bound) rest)
  | _, _ => none

/-- The condition that a row is past some bounds. Columns of one direction are compared as a
row where that is possible and there are several. -/
def condition? {γ δ : Type} (comparesRows : Bool) (columns : List (γ × Direction))
    (bounds : List δ) : Option (Condition γ δ) :=
  match columns with
  | (_, direction) :: _ :: _ =>
    if comparesRows ∧ columns.all (·.2 = direction) then
      some (.compareRows (columns.map (·.1)) (past direction) bounds)
    else
      stepwise? columns bounds
  | columns => stepwise? columns bounds

/-- The condition as it stands in a statement. There is none without columns, or if a column
that is compared by itself lacks a value. -/
def render? (dialect : Dialect) (seek : Seek) : Option String := do
  let columns := seek.columns.map fun sort =>
    (dialect.qualify seek.table sort.column, sort.direction)
  let condition ← condition? dialect.comparesRows columns (seek.values.map dialect.literal)
  return condition.render

/-- Does a row with these sort-key values come after the one that is marked? -/
def admitsFrom : List SortColumn → List Value → List Value → Bool
  | sort :: columns, bound :: bounds, value :: row =>
    match value.sqlCompare bound with
    | some .eq => admitsFrom columns bounds row
    | some .gt => sort.direction = .asc
    | some .lt => sort.direction = .desc
    | none => false
  | _, _, _ => false

/-- Does a row come after the one that is marked? A comparison that is unknown admits
nothing. -/
def admits (seek : Seek) (row : List Value) : Bool :=
  admitsFrom seek.columns seek.values row

end Seek

end PagedJoins
