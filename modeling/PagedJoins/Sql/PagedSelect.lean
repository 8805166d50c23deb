import PagedJoins.Page.Paging
import PagedJoins.Sql.Conditions
import PagedJoins.Sql.Join

/-!
# Paged selects

A page of a table is a select of its own: it counts all rows that meet the conditions,
orders them, and returns a window of them. The rows may be restricted and ordered by a
second table, which is joined inside the select and adds no columns.
-/

namespace PagedJoins

/-- A table joined inside a select. -/
structure InnerJoin where
  table : String
  aliasName : String
  on : String
  deriving DecidableEq, Repr

/-- A page of a table. -/
structure PagedSelect where
  table : String
  aliasName : String
  inner : Option InnerJoin := none
  conditions : Conditions
  seek : Option Seek := none
  order : Order
  limit : Limit
  offset : Option UInt64 := none
  deriving DecidableEq, Repr

/-- The first lines of a select: its columns, and its table. -/
def Dialect.selectLines (dialect : Dialect) (table aliasName columns : String) : List String :=
  ["SELECT " ++ dialect.quote aliasName ++ ".*" ++ columns,
    "FROM " ++ dialect.aliasTable table aliasName]

namespace PagedSelect

/-- The conditions of the select, the seek last. -/
def allConditions (dialect : Dialect) (select : PagedSelect) : Conditions :=
  match select.seek with
  | some seek => select.conditions.push (seek.render? dialect)
  | none => select.conditions

/-- The `WHERE` of the select. A body that cannot see its parent goes without the condition
that ties it to it. -/
def filter (dialect : Dialect) (isAttached : Bool) (select : PagedSelect) : String :=
  let conditions := select.allConditions dialect
  if isAttached ∧ dialect.lateralStyle = .derivedJoin then
    conditions.renderUncorrelated
  else
    conditions.render

/-- The lines of the select under a given `WHERE`. -/
def body (dialect : Dialect) (filter : String) (select : PagedSelect) : String :=
  let count := ", COUNT(*) OVER () AS " ++ dialect.quote totalColumn
  let inner := select.inner.map fun join =>
    Join.render dialect ⟨.left, join.table, join.aliasName, join.on⟩
  let window := dialect.windowClause select.limit select.offset
  let lines :=
    dialect.selectLines select.table select.aliasName count ++ inner.toList ++
    ["WHERE " ++ filter, "ORDER BY " ++ select.order.render dialect] ++
    if window = "" then [] else [window]
  "\n".intercalate lines

/-- The select as the first table of a statement. -/
def standalone (dialect : Dialect) (select : PagedSelect) : String :=
  "FROM " ++ dialect.derivedTable (select.body dialect (select.filter dialect false))
    select.aliasName

/-- The select joined to its parent on a condition. -/
def attached (dialect : Dialect) (kind : JoinKind) (on : String) (select : PagedSelect) :
    String :=
  dialect.attach kind (select.body dialect (select.filter dialect true)) select.aliasName on

end PagedSelect

/-- All rows of a table that meet a condition, as the first table of a statement. -/
def Dialect.plainTable (dialect : Dialect) (table aliasName filter : String) : String :=
  let lines := dialect.selectLines table aliasName "" ++ ["WHERE " ++ filter]
  "FROM " ++ dialect.derivedTable ("\n".intercalate lines) aliasName

end PagedJoins
