import PagedJoins.Sql.Identifier
import PagedJoins.Sql.Literal

/-!
# Tables of batch keys

The keys that a batch of parent rows consists of, as a table of one column and as the list
of an `IN` condition.
-/

namespace PagedJoins.Dialect

/-- The first row of a union, which names the column, or a later one. -/
def unionRow (dialect : Dialect) (source column literal : String) (isFirst : Bool) : String :=
  if isFirst then
    match dialect.aliasKeyword with
    | some keyword => "SELECT " ++ literal ++ " " ++ keyword ++ " " ++ column ++ source
    | none => "SELECT " ++ literal ++ " " ++ column ++ source
  else
    "SELECT " ++ literal ++ source

/-- The clause that makes a table of the values, with one row for each. -/
def valuesTable (dialect : Dialect) (column : String) (values : List Value) : String :=
  let column := dialect.quote column
  let literals := values.map dialect.literal
  match dialect.rowsStyle with
  | .values opening =>
    let rows := literals.map fun literal => opening ++ literal ++ ")"
    "FROM (VALUES " ++ ",".intercalate rows ++ ") " ++ batchAlias ++ "(" ++ column ++ ")"
  | .union source =>
    let rows := match literals with
      | [] => []
      | first :: others =>
        dialect.unionRow source column first true ::
          others.map fun literal => dialect.unionRow source column literal false
    "FROM (" ++ " UNION ALL ".intercalate rows ++ ") " ++ batchAlias

/-- The column of the table of batch keys. -/
def batchColumn (dialect : Dialect) (column : String) : String :=
  batchAlias ++ "." ++ dialect.quote column

/-- The condition that an expression is one of the values. -/
def inList (dialect : Dialect) (expr : String) (values : List Value) : String :=
  expr ++ " IN (" ++ ", ".intercalate (values.map dialect.literal) ++ ")"

end PagedJoins.Dialect
