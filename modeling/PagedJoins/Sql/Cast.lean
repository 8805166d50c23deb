import PagedJoins.Sql.Dialect
import PagedJoins.Value.Basic

/-!
# Casts

A column that is compared with literals is cast to the type of a sample, so that the
comparison is one of equal types.
-/

namespace PagedJoins.Dialect

/-- The type to cast to for values of a kind; `NULL` has none. -/
def castType? (dialect : Dialect) (kind : ValueKind) : Option String :=
  match kind, dialect with
  | .null, _ => none
  | .integer, postgres | .integer, sqlServer => some "BIGINT"
  | .integer, mySql | .integer, mariaDb => some "SIGNED"
  | .integer, sqlite => some "INTEGER"
  | .integer, oracle => some "NUMBER"
  | .float, postgres => some "DOUBLE PRECISION"
  | .float, mySql | .float, mariaDb => some "DOUBLE"
  | .float, sqlite => some "REAL"
  | .float, oracle => some "BINARY_DOUBLE"
  | .float, sqlServer => some "FLOAT"
  | .decimal, postgres | .decimal, sqlite => some "NUMERIC"
  | .decimal, mySql | .decimal, mariaDb => some "DECIMAL(65,30)"
  | .decimal, oracle => some "NUMBER"
  | .decimal, sqlServer => some "DECIMAL(38,10)"
  | .text, postgres | .text, sqlite => some "TEXT"
  | .text, mySql | .text, mariaDb => some "CHAR"
  | .text, oracle => some "VARCHAR2(4000)"
  | .text, sqlServer => some "NVARCHAR(4000)"
  | .boolean, postgres => some "BOOLEAN"
  | .boolean, mySql | .boolean, mariaDb => some "SIGNED"
  | .boolean, sqlite => some "INTEGER"
  | .boolean, oracle => some "NUMBER(1)"
  | .boolean, sqlServer => some "BIT"

/-- An expression cast to the type of a sample. -/
def castLike (dialect : Dialect) (expr : String) (sample : Value) : String :=
  match dialect.castType? sample.kind with
  | some type => "CAST(" ++ expr ++ " AS " ++ type ++ ")"
  | none => expr

end PagedJoins.Dialect
