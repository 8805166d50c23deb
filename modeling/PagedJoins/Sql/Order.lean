import PagedJoins.Sql.Identifier
import PagedJoins.Relation.Column

/-!
# Orders

The columns of one table that a select is ordered by.
-/

namespace PagedJoins

/-- Sort columns of the table with an alias. -/
structure Order where
  table : String
  columns : List SortColumn
  deriving DecidableEq, Repr

/-- A sort column of an aliased table, with its direction. -/
def Dialect.orderTerm (dialect : Dialect) (table : String) (sort : SortColumn) : String :=
  dialect.qualify table sort.column ++ " " ++ sort.direction.keyword

namespace Order

/-- The order with every direction turned round. -/
def reversed (order : Order) : Order :=
  { order with columns := order.columns.map SortColumn.reverse }

@[simp] theorem reversed_reversed (order : Order) : order.reversed.reversed = order := by
  obtain ⟨table, columns⟩ := order
  simp [reversed, Function.comp_def]

/-- The order as the list that follows `ORDER BY`. -/
def render (dialect : Dialect) (order : Order) : String :=
  ", ".intercalate (order.columns.map (dialect.orderTerm order.table))

end Order

end PagedJoins
