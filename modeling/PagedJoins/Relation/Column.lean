import PagedJoins.Json.Record

/-!
# Columns

References to columns, and the ordered lists of columns that sort a relation.
-/

namespace PagedJoins

/-- A column of the table at hand. -/
structure ColumnRef where
  name : String
  deriving DecidableEq, Repr

/-- The direction of a sort. -/
inductive Direction where
  | asc
  | desc
  deriving DecidableEq, Repr, Inhabited

namespace Direction

/-- The keyword of a direction. -/
def keyword : Direction → String
  | asc => "ASC"
  | desc => "DESC"

/-- The other direction. -/
def reverse : Direction → Direction
  | asc => desc
  | desc => asc

@[simp] theorem reverse_reverse (direction : Direction) :
    direction.reverse.reverse = direction := by
  cases direction <;> rfl

/-- The direction of a keyword. -/
def ofKeyword? (keyword : String) : Option Direction :=
  [asc, desc].find? (·.keyword = keyword)

@[simp] theorem ofKeyword?_keyword (direction : Direction) :
    ofKeyword? direction.keyword = some direction := by
  cases direction <;> rfl

end Direction

/-- A column to sort by. -/
structure SortColumn where
  column : String
  direction : Direction
  deriving DecidableEq, Repr

/-- The column with its direction turned round. -/
def SortColumn.reverse (sort : SortColumn) : SortColumn :=
  { sort with direction := sort.direction.reverse }

@[simp] theorem SortColumn.reverse_involutive (sort : SortColumn) :
    sort.reverse.reverse = sort := by
  simp [reverse]

/-- The keys that attach a relation to a batch of parent rows: a column of the relation's
own table, or of its junction, and the column of the parent that the batch lists. -/
structure BatchKeys where
  thisKey : ColumnRef
  parentKey : ColumnRef
  deriving DecidableEq, Repr

/-! ## JSON -/

open Json (object quote)
open Json.Reader (record₁ record₂ ofOption string peek advance expect)

/-- A column reference as JSON. -/
def ColumnRef.toJson (ref : ColumnRef) : String :=
  object [("name", quote ref.name)]

/-- A column reference. -/
def ColumnRef.reader : Json.Reader ColumnRef :=
  ColumnRef.mk <$> record₁ "name" string

/-- A direction as JSON. -/
def Direction.toJson (direction : Direction) : String :=
  quote direction.keyword

/-- A direction: its keyword, or an object that maps the keyword to `null`. -/
def Direction.reader : Json.Reader Direction := do
  if (← peek) = '{' then
    advance
    let direction ← ofOption (Direction.ofKeyword? (← string))
    expect ':'
    Json.Reader.null
    expect '}'
    return direction
  else
    ofOption (Direction.ofKeyword? (← string))

/-- A sort column as JSON. -/
def SortColumn.toJson (sort : SortColumn) : String :=
  object [("column", quote sort.column), ("direction", sort.direction.toJson)]

/-- A sort column. -/
def SortColumn.reader : Json.Reader SortColumn := do
  let (column, direction) ← record₂ "column" string "direction" Direction.reader
  return ⟨column, direction⟩

/-- Batch keys as JSON. -/
def BatchKeys.toJson (keys : BatchKeys) : String :=
  object [("this_key", keys.thisKey.toJson), ("parent_key", keys.parentKey.toJson)]

/-- Batch keys. -/
def BatchKeys.reader : Json.Reader BatchKeys := do
  let (thisKey, parentKey) ←
    record₂ "this_key" ColumnRef.reader "parent_key" ColumnRef.reader
  return ⟨thisKey, parentKey⟩

end PagedJoins
