import PagedJoins.Value.Basic
import PagedJoins.Binary.Layout
import PagedJoins.Json.Record

/-!
# Values as JSON

A value is an object with one member, whose name is its type; `NULL` is the string
`"Null"`, or when read, also an object with the member `null`. The type survives a round
trip, and so does every value but a float that is infinite or not a number, which is
written as `null`.
-/

namespace PagedJoins

namespace Value

/-- A floating-point number as JSON. -/
def numberJson {format : BinaryFormat} (layout : Layout) (x : Binary format) : String :=
  if x.isFinite then x.render layout else "null"

/-- The object with a single member. -/
def tagged (name body : String) : String :=
  Json.object [(name, body)]

/-- A value as JSON, without white space. -/
def toJson : Value → String
  | null => "\"Null\""
  | bool b => tagged "Bool" (if b then "true" else "false")
  | integer width n => tagged width.name (Text.signedDecimal n.val)
  | float x => tagged "Float" (numberJson .jsonSingle x)
  | double x => tagged "Double" (numberJson .jsonDouble x)
  | decimal s => tagged "Decimal" (Json.quote s)
  | text s => tagged "Text" (Json.quote s)

open Json Reader

/-- A floating-point number of a format. -/
def binaryReader (format : BinaryFormat) : Reader (Binary format) := do
  ofOption ((← numeral).toBinary? format)

/-- An integer of a width. -/
def sizedReader (width : IntWidth) : Reader (SizedInt width) := do
  let i ← ofOption (← numeral).toInt?
  ofOption (SizedInt.ofInt? width i)

/-- The content of a value of the named type. -/
def bodyReader (name : String) : Reader Value :=
  match IntWidth.ofName? name with
  | some width => return integer width (← sizedReader width)
  | none =>
    if name = "Null" then do Reader.null; return null
    else if name = "Bool" then return bool (← Reader.bool)
    else if name = "Float" then return float (← binaryReader .single)
    else if name = "Double" then return double (← binaryReader .double)
    else if name = "Decimal" then return decimal (← string)
    else if name = "Text" then return text (← string)
    else malformed

/-- A value. -/
def reader : Reader Value := do
  if (← peek) = '{' then
    advance
    let name ← string
    expect ':'
    let value ← bodyReader name
    expect '}'
    return value
  else
    let name ← string
    if name = "Null" then return null else malformed

end Value

end PagedJoins
