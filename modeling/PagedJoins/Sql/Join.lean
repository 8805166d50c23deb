import PagedJoins.Sql.Identifier

/-!
# Joins

How a table, or a derived table, is joined to what stands before it.
-/

namespace PagedJoins

/-- The kind of a join. -/
inductive JoinKind where
  | inner
  | left
  deriving DecidableEq, Repr

/-- The keywords of a join. -/
def JoinKind.keywords : JoinKind → String
  | inner => "INNER JOIN"
  | left => "LEFT JOIN"

/-- A table joined on a condition. -/
structure Join where
  kind : JoinKind
  table : String
  aliasName : String
  on : String
  deriving DecidableEq, Repr

/-- A join as it stands in a statement. -/
def Join.render (dialect : Dialect) (join : Join) : String :=
  join.kind.keywords ++ " " ++ dialect.aliasTable join.table join.aliasName ++ " ON " ++ join.on

/-- A text on lines of its own between parentheses, under an alias. -/
def Dialect.derivedTable (dialect : Dialect) (body aliasName : String) : String :=
  "(\n" ++ body ++ "\n) " ++ dialect.quote aliasName

/-- A derived table joined to its parent in the way of the dialect. -/
def Dialect.attach (dialect : Dialect) (kind : JoinKind) (body aliasName on : String) : String :=
  let table := dialect.derivedTable body aliasName
  match dialect.lateralStyle with
  | .joinLateral => kind.keywords ++ " LATERAL " ++ table ++ " ON " ++ on
  | .crossApply => "CROSS APPLY " ++ table
  | .derivedJoin => kind.keywords ++ " " ++ table ++ " ON " ++ on

end PagedJoins
