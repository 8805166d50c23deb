import PagedJoins.Binary.Rounding
import PagedJoins.Text.Decimal

/-!
# JSON numbers

A number is kept as it is spelled: an integer has neither fraction nor exponent, and
`-0` is none, since no integer has that sign.

As a floating-point number it is worked out in the 64-bit format. Its digits are gathered
into a significand for as long as that fits 64 bits; the significand is rounded, then
multiplied or divided by a rounded power of ten, each step rounding again. So the
result may differ from the nearest number in its last place. A number too large for the
format has no value. An integer of 64 bits is rounded once, to the format asked for.
-/

namespace PagedJoins.Json

/-- A number as it is spelled, with digits for characters. -/
structure Numeral where
  negative : Bool
  whole : List Char
  fraction : List Char
  exponent : Option Int
  deriving DecidableEq, Repr

/-- The exponent of a number: `e`, an optional sign and at least one digit. -/
def readExponent? : List Char → Option (Option Int × List Char)
  | [] => some (none, [])
  | c :: rest =>
    if c = 'e' ∨ c = 'E' then
      let (negative, rest) := match rest with
        | '-' :: rest => (true, rest)
        | '+' :: rest => (false, rest)
        | rest => (false, rest)
      let (digits, after) := Text.spanDigits rest
      if digits = [] then
        none
      else
        let n : Int := Text.ofDigits digits
        some (some (if negative then -n else n), after)
    else
      some (none, c :: rest)

/-- The fraction of a number: a point and at least one digit. -/
def readFraction? : List Char → Option (List Char × List Char)
  | '.' :: rest =>
    let (digits, after) := Text.spanDigits rest
    if digits = [] then none else some (digits, after)
  | rest => some ([], rest)

/-- Read a number. A leading zero stands alone before the point. -/
def readNumeral? (chars : List Char) : Option (Numeral × List Char) := do
  let (negative, rest) := match chars with
    | '-' :: rest => (true, rest)
    | rest => (false, rest)
  let (whole, rest) := Text.spanDigits rest
  if whole = [] ∨ (whole.head? = some '0' ∧ whole ≠ ['0']) then
    none
  else
    let (fraction, rest) ← readFraction? rest
    let (exponent, rest) ← readExponent? rest
    return (⟨negative, whole, fraction, exponent⟩, rest)

/-- The greatest significand that is gathered from the digits. -/
def maxSignificand : Nat := UInt64.size - 1

/-- Append digits to a significand while it fits; the digits that are left over follow. -/
def gather (significand : Nat) : List Char → Nat × List Char
  | [] => (significand, [])
  | c :: rest =>
    let next := 10 * significand + Text.digitValue c
    if next ≤ maxSignificand then gather next rest else (significand, c :: rest)

/-- The number of the 64-bit format nearest to a power of ten, as a fraction. -/
def powerOfTen (power : Nat) : Nat × Nat :=
  (Binary.nearest .double false (Nat.pow 10 power) 1).fraction?.getD (1, 1)

/-- The number times a rounded power of ten. -/
def timesPower (x : Binary .double) (power : Nat) : Binary .double :=
  let (numerator, denominator) := powerOfTen power
  x.scale numerator denominator

/-- The number divided by a rounded power of ten. -/
def overPower (x : Binary .double) (power : Nat) : Binary .double :=
  let (numerator, denominator) := powerOfTen power
  x.scale denominator numerator

/-- A significand times a power of ten. A power past 308 is applied in steps of 308, which
leave nothing of a significand of 64 bits after the second. -/
def scaled? (negative : Bool) (significand : Nat) (exponent : Int) :
    Option (Binary .double) :=
  let x := Binary.nearest .double negative significand 1
  if significand = 0 then
    some x
  else if 308 < exponent then
    none
  else if 0 ≤ exponent then
    let y := timesPower x exponent.toNat
    if y.isFinite then some y else none
  else
    let power := (-exponent).toNat
    if power ≤ 308 then some (overPower x power)
    else if power ≤ 616 then some (overPower (overPower x 308) (power - 308))
    else some (.zero negative)

namespace Numeral

/-- The integer that the number spells, if it spells one. -/
def toInt? (numeral : Numeral) : Option Int :=
  if numeral.fraction = [] ∧ numeral.exponent = none then
    let n := Text.ofDigits numeral.whole
    if numeral.negative then (if n = 0 then none else some (-(n : Int))) else some n
  else
    none

/-- The number in the 64-bit format. -/
def toDouble? (numeral : Numeral) : Option (Binary .double) :=
  let (significand, dropped) := gather 0 numeral.whole
  if dropped = [] ∧ numeral.fraction = [] ∧ numeral.exponent = none then
    some (Binary.nearest .double numeral.negative significand 1)
  else
    let (significand, unused) := gather significand numeral.fraction
    let used : Int := numeral.fraction.length - unused.length
    scaled? numeral.negative significand
      (dropped.length - used + numeral.exponent.getD 0)

/-- The number in a given format. -/
def toBinary? (format : BinaryFormat) (numeral : Numeral) : Option (Binary format) :=
  match numeral.toInt? with
  | some i =>
    if Int64.minValue.toInt ≤ i ∧ i < UInt64.size then
      some (Binary.ofInt format i)
    else
      numeral.toDouble?.map (·.convert format)
  | none => numeral.toDouble?.map (·.convert format)

end Numeral

end PagedJoins.Json
