import PagedJoins.Sql.Dialect
import PagedJoins.Value.Basic
import PagedJoins.Binary.Layout
import PagedJoins.Text.DecimalDigit

/-!
# Literals

How a value is written in a statement. A text is always quoted. A decimal is written as it
is if it has the shape of a numeral, in the digits of any script, and quoted otherwise.
-/

namespace PagedJoins

namespace Shape

/-- Split off the leading decimal digits, of which there must be one. -/
def digits? (chars : List Char) : Option (List Char × List Char) :=
  let (digits, rest) := (chars.takeWhile Text.isDecimalDigit, chars.dropWhile Text.isDecimalDigit)
  if digits = [] then none else some (digits, rest)

/-- Split off a fraction: a point and decimal digits, or nothing. -/
def fraction? : List Char → Option (List Char × List Char)
  | '.' :: rest => (digits? rest).map fun (digits, after) => ('.' :: digits, after)
  | rest => some ([], rest)

/-- Is this the exponent of a numeral, or nothing? -/
def isExponent : List Char → Bool
  | [] => true
  | c :: rest =>
    let digits := match rest with
      | '+' :: digits => digits
      | '-' :: digits => digits
      | digits => digits
    (c = 'e' || c = 'E') && digits ≠ [] && digits.all Text.isDecimalDigit

/-- Is the text a numeral: an optional minus, digits, and perhaps a fraction and an
exponent? -/
def isNumeral (chars : List Char) : Bool :=
  let unsigned := match chars with
    | '-' :: rest => rest
    | rest => rest
  match (digits? unsigned).bind fun (_, rest) => fraction? rest with
  | some (_, rest) => isExponent rest
  | none => false

/-- A place of a fixed pattern. -/
inductive Place where
  | digit
  | exactly (c : Char)

/-- Does the character fit the place? -/
def Place.fits : Place → Char → Bool
  | digit, c => Text.isDecimalDigit c
  | exactly d, c => c = d

/-- Split off characters that fit the places of a pattern one by one. -/
def fixed? : List Place → List Char → Option (List Char × List Char)
  | [], rest => some ([], rest)
  | place :: places, c :: rest =>
    if place.fits c then
      (fixed? places rest).map fun (matched, after) => (c :: matched, after)
    else
      none
  | _ :: _, [] => none

/-- Year, month and day. -/
def datePattern : List Place :=
  [.digit, .digit, .digit, .digit, .exactly '-', .digit, .digit, .exactly '-', .digit, .digit]

/-- Hour, minute and second. -/
def timePattern : List Place :=
  [.digit, .digit, .exactly ':', .digit, .digit, .exactly ':', .digit, .digit]

/-- The content of a timestamp literal, if the text has the shape of a timestamp: a date, a
`T` or a space, a time with perhaps a fraction, and perhaps a `Z`. The literal has a
space and no `Z`. -/
def timestamp? (chars : List Char) : Option (List Char) := do
  let (date, rest) ← fixed? datePattern chars
  let rest ← match rest with
    | 'T' :: rest => some rest
    | ' ' :: rest => some rest
    | _ => none
  let (time, rest) ← fixed? timePattern rest
  let (fraction, rest) ← fraction? rest
  if rest = [] ∨ rest = ['Z'] then
    return date ++ ' ' :: time ++ fraction
  else
    none

end Shape

namespace Dialect

/-- The text of a string literal inside its quotes. -/
def escapeString (dialect : Dialect) (chars : List Char) : List Char :=
  let chars := Text.doubled '\'' chars
  if dialect.escapesBackslash then Text.doubled '\\' chars else chars

/-- A string literal. -/
def stringLiteral (dialect : Dialect) (chars : List Char) : String :=
  String.ofList ('\'' :: dialect.escapeString chars ++ ['\''])

/-- A truth value. -/
def boolLiteral (dialect : Dialect) (b : Bool) : String :=
  if dialect.hasTruthWords then (if b then "TRUE" else "FALSE")
  else (if b then "1" else "0")

/-- A floating-point number; those without a numeral are `NULL`. -/
def binaryLiteral {format : BinaryFormat} (x : Binary format) : String :=
  if x.isFinite then x.render .plain else "NULL"

/-- A value as a literal. -/
def literal (dialect : Dialect) : Value → String
  | .null => "NULL"
  | .bool b => dialect.boolLiteral b
  | .integer _ n => Text.signedDecimal n.val
  | .float x => binaryLiteral x
  | .double x => binaryLiteral x
  | .decimal s =>
    if Shape.isNumeral s.toList then s else dialect.stringLiteral s.toList
  | .text s =>
    match Shape.timestamp? s.toList with
    | some content =>
      if dialect.hasTimestamps then "TIMESTAMP " ++ dialect.stringLiteral content
      else dialect.stringLiteral s.toList
    | none => dialect.stringLiteral s.toList

end Dialect

end PagedJoins
