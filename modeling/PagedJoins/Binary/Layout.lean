import PagedJoins.Binary.Shortest
import PagedJoins.Text.Decimal

/-!
# Layouts of a floating-point number

What a layout decides beyond the digits: which magnitudes are written positionally,
whether a whole number keeps a fraction, whether a positive exponent has a sign, and
where ties go. Each place that writes numbers has its own layout.
-/

namespace PagedJoins

/-- How the digits of a number are set out. -/
structure Layout where
  ties : TieRule
  /-- The powers of ten of the leading digit that are written positionally; all of them,
  if there is no range. -/
  positional : Option (Int × Int)
  /-- A whole number in positional form ends in `.0`. -/
  keepsFraction : Bool
  /-- A positive exponent is written with `+`. -/
  plusSign : Bool

namespace Layout

/-- Always positional, with no fraction for a whole number. -/
def plain : Layout where
  ties := .up
  positional := none
  keepsFraction := false
  plusSign := false

/-- The layout of diagnostics: powers of the leading digit from -4 to 15 are positional. -/
def diagnostic : Layout where
  ties := .up
  positional := some (-4, 15)
  keepsFraction := true
  plusSign := false

/-- The layout of JSON for the 64-bit format. -/
def jsonDouble : Layout where
  ties := .even
  positional := some (-5, 15)
  keepsFraction := true
  plusSign := true

/-- The layout of JSON for the 32-bit format. -/
def jsonSingle : Layout where
  ties := .even
  positional := some (-6, 12)
  keepsFraction := true
  plusSign := true

/-- Digits with a point: `point` of them stand before it. -/
def positionalChars (layout : Layout) (digits : List Char) (point : Int) : List Char :=
  let count : Int := digits.length
  if count ≤ point then
    digits ++ List.replicate (point - count).toNat '0' ++
      if layout.keepsFraction then ['.', '0'] else []
  else if 0 < point then
    digits.take point.toNat ++ '.' :: digits.drop point.toNat
  else
    '0' :: '.' :: List.replicate (-point).toNat '0' ++ digits

/-- Digits with a point after the first, and the power of ten of the first. -/
def scientificChars (layout : Layout) (digits : List Char) (power : Int) : List Char :=
  let fraction := digits.drop 1
  let sign := if power < 0 then ['-'] else if layout.plusSign then ['+'] else []
  digits.take 1 ++ (if fraction = [] then [] else '.' :: fraction) ++
    'e' :: sign ++ Text.digits power.natAbs

/-- The digits of a coefficient without its trailing zeros, and how many there were. -/
def significantDigits (coefficient : Nat) : List Char × Nat :=
  let all := Text.digits coefficient
  let kept := (all.reverse.dropWhile (· = '0')).reverse
  (kept, all.length - kept.length)

/-- A positive decimal set out. -/
def decimalChars (layout : Layout) (decimal : Decimal) : List Char :=
  let (digits, zeros) := significantDigits decimal.coefficient
  let point : Int := digits.length + zeros + decimal.exponent
  match layout.positional with
  | none => layout.positionalChars digits point
  | some (least, greatest) =>
    if least ≤ point - 1 ∧ point - 1 ≤ greatest then
      layout.positionalChars digits point
    else
      layout.scientificChars digits (point - 1)

/-- The magnitude of a finite number set out. -/
def magnitudeChars (layout : Layout) (format : BinaryFormat) (significand : Nat)
    (exponent : Int) : List Char :=
  if significand = 0 then
    layout.positionalChars ['0'] 1
  else
    layout.decimalChars (Binary.shortest format layout.ties significand exponent)

end Layout

/-- A number written by a layout; the sign of a negative zero is kept. -/
def Binary.render {format : BinaryFormat} (layout : Layout) : Binary format → String
  | .nan => "NaN"
  | .infinite negative => if negative then "-inf" else "inf"
  | .finite negative significand exponent _ =>
    let magnitude := layout.magnitudeChars format significand exponent
    String.ofList (if negative then '-' :: magnitude else magnitude)

end PagedJoins
