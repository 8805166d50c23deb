import PagedJoins.Value.Basic
import PagedJoins.Binary.Numeral

/-!
# The order of values in SQL

`NULL` compares with nothing, and neither do values of unrelated types. Integers compare
exactly. As soon as one side of two numbers is a float or a decimal, both are taken to the
64-bit floating-point format first, so numbers that differ may compare as equal there.
-/

namespace PagedJoins

/-- The order of two texts: that of their code points from the first difference on. It is
also the order of their UTF-8 bytes. -/
def compareText (a b : String) : Ordering :=
  List.compareLex (fun c d => compare c.toNat d.toNat) a.toList b.toList

namespace Value

/-- The 64-bit floating-point number that a numeric value stands for. A decimal stands for
one only if its text is a numeral. -/
def toDouble? : Value → Option (Binary .double)
  | float x => some (x.convert .double)
  | double x => some x
  | integer _ n => some (Binary.ofInt .double n.val)
  | decimal s => Binary.ofText? .double s
  | _ => none

/-- The order of two values in SQL; `none` is the unknown outcome of a comparison. -/
def sqlCompare (a b : Value) : Option Ordering :=
  match a, b with
  | text s, text t => some (compareText s t)
  | bool p, bool q => some (compare p.toNat q.toNat)
  | integer _ m, integer _ n => some (compare m.val n.val)
  | a, b =>
    if a.isNumeric ∧ b.isNumeric then do
      let x ← a.toDouble?
      let y ← b.toDouble?
      x.compare? y
    else
      none

end Value

end PagedJoins
