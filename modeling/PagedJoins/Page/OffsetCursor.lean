import PagedJoins.Text.Base64
import PagedJoins.Text.Blank
import PagedJoins.Text.Decimal
import PagedJoins.Text.Utf8
import PagedJoins.Error

/-!
# Offset cursors

Where rows are counted, a cursor is the position of a row, counted from zero: the Base64 of
a fixed word and the position in decimal notation.
-/

namespace PagedJoins.OffsetCursor

/-- The word that an offset cursor starts with. -/
def marker : String := "arrayconnection:"

/-- The cursor of a position. -/
def encode (position : UInt64) : String :=
  String.ofList <| Text.Base64.encode <| Text.Utf8.encode <|
    marker ++ Text.decimal position.toNat

/-- The number after the marker: ASCII digits, perhaps after a plus, for a number of at most
64 bits. -/
def position? (chars : List Char) : Option UInt64 := do
  let digits := match chars with
    | '+' :: rest => rest
    | rest => rest
  let n ← Text.readNat? digits
  if n < UInt64.size then return UInt64.ofNat n else none

/-- The position of a cursor. White space about the text does not matter. -/
def decode (text : String) : Except CursorFault UInt64 :=
  match Text.Base64.decode (Text.trimChars text.toList) with
  | none => .error .offsetNotBase64
  | some bytes =>
    match Text.Utf8.decode? bytes with
    | none => .error .offsetNotText
    | some content =>
      let position := do
        let rest ← marker.toList.isPrefixOf? content.toList
        position? rest
      match position with
      | some n => .ok n
      | none => .error (.notOffset content)

end PagedJoins.OffsetCursor
