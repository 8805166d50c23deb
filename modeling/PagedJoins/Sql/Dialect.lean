import PagedJoins.Error
import PagedJoins.Text.Blank
import PagedJoins.Text.Quoted

/-!
# Dialects

The databases that statements can be written for, and the choices of syntax in which they
differ. A choice is a value of a small type; how it is spelled is up to the part of the
statement that it concerns.
-/

namespace PagedJoins

/-- A database. -/
inductive Dialect where
  | postgres
  | oracle
  | mySql
  | mariaDb
  | sqlite
  | sqlServer
  deriving DecidableEq, Repr, Inhabited

/-- How a derived table that depends on its parent row is attached. -/
inductive LateralStyle where
  /-- `JOIN LATERAL (…) a ON condition`. -/
  | joinLateral
  /-- `CROSS APPLY (…) a`, which has no condition. -/
  | crossApply
  /-- `JOIN (…) a ON condition`: the body cannot see the parent row. -/
  | derivedJoin
  deriving DecidableEq, Repr

/-- How the rows to return are delimited. -/
inductive WindowStyle where
  /-- `LIMIT n OFFSET m`, with a word or a number that stands for no limit. -/
  | limit (unlimited : String)
  /-- `OFFSET m ROWS FETCH NEXT n ROWS ONLY`, or only what is needed of it. -/
  | fetch
  /-- As `fetch`, but the offset is always written. -/
  | offsetFetch
  deriving DecidableEq, Repr

/-- How a table of literal rows is written. -/
inductive RowsStyle where
  /-- `VALUES`, each row between `opening` and a parenthesis. -/
  | values (opening : String)
  /-- A union of selects, each of which ends in `source`. -/
  | union (source : String)
  deriving DecidableEq, Repr

namespace Dialect

/-- Every dialect, in the order of listings. -/
def all : List Dialect :=
  [postgres, oracle, mySql, mariaDb, sqlite, sqlServer]

/-- The name of a dialect. -/
def name : Dialect → String
  | postgres => "pg"
  | oracle => "oracle"
  | mySql => "mysql"
  | mariaDb => "mariadb"
  | sqlite => "sqlite"
  | sqlServer => "mssql"

/-- The names that a dialect goes by, in lower case. -/
def names : Dialect → List String
  | postgres => ["pg", "postgres", "postgresql"]
  | oracle => ["oracle"]
  | mySql => ["mysql", "mysql8"]
  | mariaDb => ["mariadb"]
  | sqlite => ["sqlite", "sqlite3"]
  | sqlServer => ["mssql", "sqlserver"]

/-- The dialect of a name. White space about the name and the case of ASCII letters do not
matter. -/
def ofName (name : String) : Except Error Dialect :=
  let folded := String.ofList ((Text.trimChars name.toList).map Char.toLower)
  match all.find? (folded ∈ ·.names) with
  | some dialect => .ok dialect
  | none => .error (.config (.unknownDialect name) none)

/-- A dialect goes by its own name. -/
theorem ofName_name (dialect : Dialect) : ofName dialect.name = .ok dialect := by
  cases dialect <;> rfl

/-- The characters that open and close a quoted identifier. -/
def quoteMarks : Dialect → Char × Char
  | postgres | oracle | sqlite => ('"', '"')
  | mySql | mariaDb => ('\x60', '\x60')
  | sqlServer => ('[', ']')

/-- The keyword between a table and its alias, if there is one. -/
def aliasKeyword : Dialect → Option String
  | oracle => none
  | _ => some "AS"

/-- How dependent derived tables are attached. -/
def lateralStyle : Dialect → LateralStyle
  | postgres | oracle | mySql => .joinLateral
  | sqlServer => .crossApply
  | sqlite | mariaDb => .derivedJoin

/-- How the rows to return are delimited. -/
def windowStyle : Dialect → WindowStyle
  | postgres => .limit "ALL"
  | sqlite => .limit "-1"
  | mySql | mariaDb => .limit "18446744073709551615"
  | oracle => .fetch
  | sqlServer => .offsetFetch

/-- How a table of literal rows is written. -/
def rowsStyle : Dialect → RowsStyle
  | postgres | sqlServer => .values "("
  | mySql => .values "ROW("
  | sqlite | mariaDb => .union ""
  | oracle => .union " FROM DUAL"

/-- Can two rows of values be compared as `(a, b) < (x, y)`? -/
def comparesRows : Dialect → Bool
  | oracle | sqlServer => false
  | _ => true

/-- Has the dialect words for truth values? -/
def hasTruthWords : Dialect → Bool
  | postgres | mySql | mariaDb => true
  | _ => false

/-- Does a backslash in a string take the meaning of the next character? -/
def escapesBackslash : Dialect → Bool
  | mySql | mariaDb => true
  | _ => false

/-- Is `||` the way to join texts, and not a function? -/
def joinsByOperator : Dialect → Bool
  | sqlite | oracle => true
  | _ => false

/-- Are timestamps typed literals? -/
def hasTimestamps : Dialect → Bool
  | oracle => true
  | _ => false

end Dialect

end PagedJoins
