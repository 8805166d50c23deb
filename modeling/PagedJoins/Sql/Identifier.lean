import PagedJoins.Sql.Dialect

/-!
# Identifiers

Names are quoted, with the closing mark of the dialect doubled inside, so any name is one
identifier and quoting a quoted name gives another. Tables are not quoted: they are
written as they are.
-/

namespace PagedJoins

/-- The column of a paged select that counts all rows. -/
def totalColumn : String := "$total"

/-- The alias of the table that lists the keys of a batch. -/
def batchAlias : String := "temp"

namespace Dialect

/-- A name as an identifier. -/
def quote (dialect : Dialect) (name : String) : String :=
  Text.quoted dialect.quoteMarks.1 dialect.quoteMarks.2 name

/-- A table under an alias. -/
def aliasTable (dialect : Dialect) (table aliasName : String) : String :=
  match dialect.aliasKeyword with
  | some keyword => table ++ " " ++ keyword ++ " " ++ dialect.quote aliasName
  | none => table ++ " " ++ dialect.quote aliasName

/-- A column of an aliased table. -/
def qualify (dialect : Dialect) (aliasName column : String) : String :=
  dialect.quote aliasName ++ "." ++ dialect.quote column

/-- A key made of several columns, which is `NULL` if all of them are empty. -/
def compositeKey (dialect : Dialect) (aliasName : String) (columns : List String) : String :=
  let keys := columns.map (dialect.qualify aliasName)
  if dialect.joinsByOperator then
    "NULLIF(" ++ " || ".intercalate keys ++ ", '')"
  else
    "NULLIF(CONCAT(" ++ ", ".intercalate keys ++ "), '')"

end Dialect

end PagedJoins
