import PagedJoins.Binary.Basic

/-!
# Rounding to a binary format

A non-negative fraction is rounded to the nearest number of a format; a value half way
between two of them goes to the one with the even significand, and a value past the
greatest becomes infinite. Conversion between formats, conversion of integers, and
multiplication by a fraction are this one rounding of an exact result.
-/

namespace PagedJoins

/-- The quotient rounded to the nearest whole number, a half to the even one. -/
def roundDiv (numerator denominator : Nat) : Nat :=
  let quotient := numerator / denominator
  let twice := 2 * (numerator % denominator)
  if twice < denominator then quotient
  else if denominator < twice then quotient + 1
  else quotient + quotient % 2

/-- The greatest `k` with `2 ^ k ≤ numerator / denominator`, both being positive. -/
def floorLog2 (numerator denominator : Nat) : Int :=
  let k : Int := numerator.log2 - denominator.log2
  let reaches :=
    if 0 ≤ k then denominator * Nat.pow 2 k.toNat ≤ numerator
    else denominator ≤ numerator * Nat.pow 2 (-k).toNat
  if reaches then k else k - 1

namespace Binary

/-- `numerator / denominator` in units of `2 ^ exponent`, rounded. -/
def roundedAt (numerator denominator : Nat) (exponent : Int) : Nat :=
  if 0 ≤ exponent then
    roundDiv numerator (denominator * Nat.pow 2 exponent.toNat)
  else
    roundDiv (numerator * Nat.pow 2 (-exponent).toNat) denominator

/-- The number of the format nearest to `± numerator / denominator`. -/
def nearest (format : BinaryFormat) (negative : Bool) (numerator denominator : Nat) :
    Binary format :=
  if numerator = 0 then
    zero negative
  else
    let lastPlace := floorLog2 numerator denominator - (format.precision - 1)
    let exponent := if lastPlace < format.minExponent then format.minExponent else lastPlace
    let significand := roundedAt numerator denominator exponent
    let (significand, exponent) :=
      if significand = format.capacity then
        (significand / 2, exponent + 1)
      else
        (significand, exponent)
    if canonical : format.Canonical significand exponent then
      .finite negative significand exponent canonical
    else
      .infinite negative

variable {format : BinaryFormat}

/-- The number nearest to an integer. -/
def ofInt (format : BinaryFormat) (i : Int) : Binary format :=
  nearest format (i < 0) i.natAbs 1

/-- Is the sign of the number a minus? -/
def isNegative : Binary format → Bool
  | .nan => false
  | .infinite negative => negative
  | .finite negative .. => negative

/-- The number of another format that is nearest to this one. -/
def convert (target : BinaryFormat) (x : Binary format) : Binary target :=
  match x.fraction? with
  | some (numerator, denominator) => nearest target x.isNegative numerator denominator
  | none =>
    match x with
    | .infinite negative => .infinite negative
    | _ => .nan

/-- The number times `numerator / denominator`, rounded; only a finite number changes. -/
def scale (x : Binary format) (numerator denominator : Nat) : Binary format :=
  match x.fraction? with
  | some (a, b) => nearest format x.isNegative (a * numerator) (b * denominator)
  | none => x

end Binary

end PagedJoins
