import Std.Data.TreeMap
import PagedJoins.Relation.Column
import PagedJoins.Value.Json

/-!
# Arguments of a relation

`first` and `after` ask for a page forward, `last` and `before` for one backward. All
other arguments are named values that only the relation's callbacks look at; they are
kept in the order of their names.
-/

namespace PagedJoins

/-- Named values, in the order of their names. -/
abbrev Bindings := Std.TreeMap String Value

/-- The arguments that a request supplies for one relation. -/
structure Args where
  first : Option UInt64 := none
  last : Option UInt64 := none
  after : Option String := none
  before : Option String := none
  filters : Bindings := ∅

namespace Args

/-- Add or replace a named argument. -/
def bind (args : Args) (name : String) (value : Value) : Args :=
  { args with filters := args.filters.insert name value }

/-- The value of a named argument. -/
def get? (args : Args) (name : String) : Option Value :=
  args.filters.get? name

/-- A value as JSON, or `null` for none. -/
def optionalJson {α : Type} (toJson : α → String) (value : Option α) : String :=
  value.elim "null" toJson

/-- A count as JSON. -/
def countJson (n : UInt64) : String :=
  Text.decimal n.toNat

/-- Arguments as JSON: the page arguments, and then the named ones as members of their own,
even where one bears the name of a page argument. -/
def toJson (args : Args) : String :=
  Json.object <|
    [("first", optionalJson countJson args.first), ("last", optionalJson countJson args.last),
      ("after", optionalJson Json.quote args.after),
      ("before", optionalJson Json.quote args.before)] ++
    args.filters.toList.map fun (name, value) => (name, value.toJson)

open Json Reader

/-- A count: an integer of 64 bits without a sign. -/
def countReader : Reader UInt64 := do
  let i ← ofOption (← numeral).toInt?
  if 0 ≤ i ∧ i < UInt64.size then return UInt64.ofNat i.toNat else malformed

/-- The page arguments that have been read so far. -/
structure Draft where
  first : Option (Option UInt64) := none
  last : Option (Option UInt64) := none
  after : Option (Option String) := none
  before : Option (Option String) := none
  filters : Bindings := ∅

/-- Read one member. A page argument comes at most once; of named arguments with one name
the last counts. -/
def Draft.read (draft : Draft) (name : String) : Reader Draft := do
  if name = "first" then
    return { draft with first := ← once name draft.first (optional countReader) }
  else if name = "last" then
    return { draft with last := ← once name draft.last (optional countReader) }
  else if name = "after" then
    return { draft with after := ← once name draft.after (optional string) }
  else if name = "before" then
    return { draft with before := ← once name draft.before (optional string) }
  else
    return { draft with filters := draft.filters.insert name (← Value.reader) }

/-- Arguments: an object, each of whose page arguments may be missing or `null`. -/
def reader : Reader Args := do
  let draft ← object Draft.read {}
  return {
    first := draft.first.join
    last := draft.last.join
    after := draft.after.join
    before := draft.before.join
    filters := draft.filters }

end Args

end PagedJoins
