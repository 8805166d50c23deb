import PagedJoins.Binary.Basic

/-!
# The shortest decimal that reads back

The reals that round to a given number of a binary format form an interval about it,
which includes its ends if the significand is even. The number is written with the
decimal of that interval that has the fewest digits, and among those with the nearest.

A decimal grid is the set of the multiples of a power of ten. If a grid has a point in
the interval, then one of the two neighbours of the number on that grid is such a
point, so it is enough to look at these two, from the coarsest grid on.
-/

namespace PagedJoins

/-- The number `coefficient * 10 ^ exponent`. -/
structure Decimal where
  coefficient : Nat
  exponent : Int
  deriving DecidableEq, Repr

/-- Where a number exactly between two decimals goes. -/
inductive TieRule where
  | up
  | even
  deriving DecidableEq, Repr

namespace Binary

/-- A positive number and the ends of the interval that rounds to it, in common units. -/
structure Interval where
  low : Nat
  value : Nat
  high : Nat
  closed : Bool

/-- The interval of `significand * 2 ^ exponent`, in units of `2 ^ (exponent - 2)`. Below a
power of two the neighbour is half as far as above it. -/
def interval (format : BinaryFormat) (significand : Nat) (exponent : Int) : Interval where
  low :=
    if 2 * significand = format.capacity ∧ format.minExponent < exponent then
      4 * significand - 1
    else
      4 * significand - 2
  value := 4 * significand
  high := 4 * significand + 2
  closed := significand % 2 = 0

namespace Interval

/-- Does `point / unit` lie in the interval? -/
def contains (interval : Interval) (point unit : Nat) : Bool :=
  if interval.closed then
    interval.low * unit ≤ point && point ≤ interval.high * unit
  else
    interval.low * unit < point && point < interval.high * unit

/-- The multiple of `step / unit` in the interval that is nearest to its number, if there
is one. -/
def onGrid? (interval : Interval) (ties : TieRule) (step unit : Nat) : Option Nat :=
  let below := interval.value * unit / step
  let pastBelow := interval.value * unit - below * step
  let toAbove := (below + 1) * step - interval.value * unit
  match interval.contains (below * step) unit,
      interval.contains ((below + 1) * step) unit with
  | false, false => none
  | true, false => some below
  | false, true => some (below + 1)
  | true, true =>
    if pastBelow < toAbove then some below
    else if toAbove < pastBelow then some (below + 1)
    else
      match ties with
      | .up => some (below + 1)
      | .even => some (below + below % 2)

end Interval

/-- The nearest decimal of the interval on the grid of `10 ^ power`, if there is one; the
interval is in units of `2 ^ unitExponent`. -/
def decimalOn? (interval : Interval) (ties : TieRule) (unitExponent power : Int) :
    Option Nat :=
  let step := Nat.pow 10 power.toNat * Nat.pow 2 (-unitExponent).toNat
  let unit := Nat.pow 10 (-power).toNat * Nat.pow 2 unitExponent.toNat
  interval.onGrid? ties step unit

/-- Try the grids of `10 ^ power` and finer ones, `tries` of them after the first. -/
def firstDecimal (interval : Interval) (ties : TieRule) (unitExponent : Int) :
    (tries : Nat) → (power : Int) → Decimal
  | 0, power => ⟨(decimalOn? interval ties unitExponent power).getD 0, power⟩
  | tries + 1, power =>
    match decimalOn? interval ties unitExponent power with
    | some coefficient => ⟨coefficient, power⟩
    | none => firstDecimal interval ties unitExponent tries (power - 1)

/-- The shortest decimal that rounds to the positive `significand * 2 ^ exponent`. The first
grid is coarser than the number, and a grid of 17 significant digits has a point in
the interval of every number of either format. -/
def shortest (format : BinaryFormat) (ties : TieRule) (significand : Nat)
    (exponent : Int) : Decimal :=
  let magnitude := exponent + significand.log2 + 1
  let coarsest := magnitude * 30103 / 100000 + 1
  firstDecimal (interval format significand exponent) ties (exponent - 2) 20 coarsest

end Binary

end PagedJoins
