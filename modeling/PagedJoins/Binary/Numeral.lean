import PagedJoins.Binary.Rounding
import PagedJoins.Text.Decimal

/-!
# Reading floating-point numerals

A numeral is an optional sign, digits with an optional point and at least one digit on
either side of it, and an optional exponent; or one of the words `inf`, `infinity` and
`nan` in any case. Only ASCII counts, and nothing may stand around the numeral. Its value
is exact, and rounded once.
-/

namespace PagedJoins

namespace Binary

/-- No number of a binary format of this library, but zero, is as small as `10 ^ -reach` or
as large as `10 ^ reach`. -/
def decimalReach : Int := 400

/-- The number nearest to `± coefficient * 10 ^ exponent`. Powers of ten out of reach are not
computed: the result is infinite or zero. -/
def ofDecimal (format : BinaryFormat) (negative : Bool) (coefficient : Nat)
    (exponent : Int) : Binary format :=
  if coefficient = 0 then
    zero negative
  else
    let magnitude := exponent + (Text.digits coefficient).length
    if decimalReach < magnitude then .infinite negative
    else if magnitude < -decimalReach then zero negative
    else if 0 ≤ exponent then nearest format negative (coefficient * Nat.pow 10 exponent.toNat) 1
    else nearest format negative coefficient (Nat.pow 10 (-exponent).toNat)

/-- Split off a leading sign; a minus gives `true`. -/
def splitSign : List Char → Bool × List Char
  | '-' :: rest => (true, rest)
  | '+' :: rest => (false, rest)
  | rest => (false, rest)

/-- The exponent that ends a numeral: nothing, or `e`, an optional sign and digits. -/
def readExponent? : List Char → Option Int
  | [] => some 0
  | c :: rest =>
    if c = 'e' ∨ c = 'E' then
      let (negative, digits) := splitSign rest
      (Text.readNat? digits).map fun n => if negative then -(n : Int) else n
    else
      none

/-- The fraction digits of a numeral, and what follows them. -/
def splitFraction : List Char → List Char × List Char
  | '.' :: rest => Text.spanDigits rest
  | rest => ([], rest)

/-- The number that an unsigned numeral denotes. -/
def ofUnsigned? (format : BinaryFormat) (negative : Bool) (chars : List Char) :
    Option (Binary format) :=
  let word := String.ofList (chars.map Char.toLower)
  if word = "inf" ∨ word = "infinity" then
    some (.infinite negative)
  else if word = "nan" then
    some .nan
  else do
    let (whole, rest) := Text.spanDigits chars
    let (fraction, rest) := splitFraction rest
    if whole = [] ∧ fraction = [] then
      none
    else
      let exponent ← readExponent? rest
      return ofDecimal format negative (Text.ofDigits (whole ++ fraction))
        (exponent - fraction.length)

/-- The number that a text denotes, if it is a numeral. -/
def ofText? (format : BinaryFormat) (text : String) : Option (Binary format) :=
  let (negative, rest) := splitSign text.toList
  ofUnsigned? format negative rest

end Binary

end PagedJoins
