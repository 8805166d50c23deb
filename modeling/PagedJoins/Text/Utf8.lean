/-!
# Bytes of a text

Texts are stored and exchanged in UTF-8. A sequence of bytes that is no UTF-8 still has
a longest well-formed beginning, which is all that a reader may look at.
-/

namespace PagedJoins.Text.Utf8

/-- The bytes of a text. -/
def encode (text : String) : List UInt8 :=
  text.toByteArray.data.toList

/-- The text that the bytes spell, if they are well formed. -/
def decode? (bytes : List UInt8) : Option String :=
  String.fromUTF8? ⟨bytes.toArray⟩

/-- The characters of the longest well-formed beginning, from byte `start` on. -/
def leading (bytes : ByteArray) : (fuel start : Nat) → List Char
  | 0, _ => []
  | fuel + 1, start =>
    match bytes.utf8DecodeChar? start with
    | some c => c :: leading bytes fuel (start + c.utf8Size)
    | none => []

/-- The characters that the bytes spell. Bytes that are not well formed end in a `NUL` at
the first fault: a character that no text format of this library admits. -/
def chars (bytes : List UInt8) : List Char :=
  match decode? bytes with
  | some text => text.toList
  | none => leading ⟨bytes.toArray⟩ bytes.length 0 ++ ['\x00']

@[simp] theorem decode?_encode (text : String) : decode? (encode text) = some text := by
  have valid : ByteArray.IsValidUTF8 { data := text.toByteArray.data } := text.isValidUTF8
  simp [decode?, encode, String.fromUTF8?, valid]
  rfl

/-- The bytes that a text is read from are those of the text. -/
theorem eq_encode_of_decode? {bytes : List UInt8} {text : String}
    (read : decode? bytes = some text) : bytes = encode text := by
  unfold decode? String.fromUTF8? at read
  split at read
  · cases read
    rfl
  · cases read

@[simp] theorem chars_encode (text : String) : chars (encode text) = text.toList := by
  simp [chars]

end PagedJoins.Text.Utf8
