import PagedJoins.Relation.Column
import PagedJoins.Value.Json
import PagedJoins.Text.Base64
import PagedJoins.Text.Blank
import PagedJoins.Text.Utf8
import PagedJoins.Error

/-!
# Cursors

A cursor marks a row by the values of the sort key, each under the name of its column. To
a client it is an opaque text: the Base64 of a JSON object, whose members are in the
order of the cursor.

A cursor with a float that is infinite or not a number cannot be written, since JSON has
no such number, and one that names a column twice cannot be read.
-/

namespace PagedJoins

/-- Columns with their values, in order. -/
structure Cursor where
  pairs : List (String × Value)
  deriving DecidableEq, Repr

namespace Cursor

/-- The cursor of a row, given by its sort-key values in order. -/
def ofRow (sortKey : List SortColumn) (row : List Value) : Cursor :=
  ⟨(sortKey.map (·.column)).zip row⟩

/-- The value of a column; the first, if there are more. -/
def get? (cursor : Cursor) (column : String) : Option Value :=
  cursor.pairs.lookup column

/-- A cursor as JSON. -/
def toJson (cursor : Cursor) : String :=
  Json.object (cursor.pairs.map fun (column, value) => (column, value.toJson))

/-- A cursor: an object of values. -/
def reader : Json.Reader Cursor :=
  Cursor.mk <$> Json.Reader.object (fun pairs column => do
    let value ← Value.reader
    if pairs.any (·.1 = column) then throw (.duplicate column)
    else return pairs ++ [(column, value)]) []

/-- Write a cursor. -/
def encode (cursor : Cursor) : Except CursorFault String :=
  match cursor.pairs.find? fun (_, value) => !value.isFinite with
  | some (column, _) => .error (.nonFinite column)
  | none => .ok (String.ofList (Text.Base64.encode (Text.Utf8.encode cursor.toJson)))

/-- Read a cursor. White space about the text does not matter. -/
def decode (text : String) : Except CursorFault Cursor :=
  match Text.Base64.decode (Text.trimChars text.toList) with
  | none => .error .notBase64
  | some bytes =>
    match reader.document (Text.Utf8.chars bytes) with
    | .ok cursor => .ok cursor
    | .error .malformed => .error .badPayload
    | .error (.duplicate column) => .error (.duplicateColumn column)

/-- The values of a sort key, in its order. The cursor must name no other column, and must
name every column of the key. -/
def alignedValues (cursor : Cursor) (sortKey : List SortColumn) :
    Except CursorFault (List Value) :=
  match cursor.pairs.find? fun (column, _) => !sortKey.any (·.column = column) with
  | some (column, _) => .error (.unknownColumn column)
  | none => sortKey.mapM fun sort =>
    match cursor.get? sort.column with
    | some value => .ok value
    | none => .error (.missingColumn sort.column)

end Cursor

end PagedJoins
