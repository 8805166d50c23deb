/-!
# Binary floating-point numbers

A number of a binary format is a significand of bounded width times a power of two, an
infinity, or not a number. The significand is kept in its canonical form, in which
every value but zero has one representation; the two zeros differ in their sign.
-/

namespace PagedJoins

/-- The range of a binary format: the width of the significand in bits, and the least and
greatest exponent of its last place. -/
structure BinaryFormat where
  precision : Nat
  minExponent : Int
  maxExponent : Int
  ordered : minExponent ≤ maxExponent := by decide

namespace BinaryFormat

/-- The 32-bit format. -/
def single : BinaryFormat where
  precision := 24
  minExponent := -149
  maxExponent := 104

/-- The 64-bit format. -/
def double : BinaryFormat where
  precision := 53
  minExponent := -1074
  maxExponent := 971

/-- The number of significands: one that fits the width is less. -/
def capacity (format : BinaryFormat) : Nat :=
  Nat.pow 2 format.precision

/-- A significand and an exponent are canonical if both are in range and the significand
fills its width, unless the exponent is already the least. -/
def Canonical (format : BinaryFormat) (significand : Nat) (exponent : Int) : Prop :=
  significand < format.capacity ∧
    format.minExponent ≤ exponent ∧ exponent ≤ format.maxExponent ∧
    (format.capacity ≤ 2 * significand ∨ exponent = format.minExponent)

instance (format : BinaryFormat) (significand : Nat) (exponent : Int) :
    Decidable (format.Canonical significand exponent) :=
  inferInstanceAs (Decidable (_ ∧ _))

theorem canonical_zero (format : BinaryFormat) : format.Canonical 0 format.minExponent :=
  ⟨Nat.two_pow_pos _, Int.le_refl _, format.ordered, .inr rfl⟩

end BinaryFormat

/-- A number of a binary format. -/
inductive Binary (format : BinaryFormat) where
  | nan
  | infinite (negative : Bool)
  /-- The number `± significand * 2 ^ exponent`. -/
  | finite (negative : Bool) (significand : Nat) (exponent : Int)
      (canonical : format.Canonical significand exponent)
  deriving DecidableEq, Repr

namespace Binary

variable {format : BinaryFormat}

/-- The zero with the given sign. -/
def zero (negative : Bool) : Binary format :=
  .finite negative 0 format.minExponent format.canonical_zero

/-- Neither infinite nor `nan`. -/
def isFinite : Binary format → Bool
  | .finite .. => true
  | _ => false

/-- A finite magnitude as a fraction of natural numbers; `none` for the rest. -/
def fraction? : Binary format → Option (Nat × Nat)
  | .finite _ significand exponent _ =>
    if 0 ≤ exponent then
      some (significand * Nat.pow 2 exponent.toNat, 1)
    else
      some (significand, Nat.pow 2 (-exponent).toNat)
  | _ => none

/-- The place of a number on the extended line: infinities lie outside all finite numbers,
and a finite number is counted in units of the least positive one. -/
def place? : Binary format → Option (Int × Int)
  | .nan => none
  | .infinite negative => some (if negative then -1 else 1, 0)
  | .finite negative significand exponent _ =>
    let units : Int := significand * Nat.pow 2 (exponent - format.minExponent).toNat
    some (0, if negative then -units else units)

/-- The order of two numbers, by value: the zeros are equal, and nothing compares with
`nan`. -/
def compare? (a b : Binary format) : Option Ordering := do
  let (x, i) ← a.place?
  let (y, j) ← b.place?
  return (compare x y).then (compare i j)

end Binary

end PagedJoins
