/-!
# Decimal notation of whole numbers

Numbers are written in ASCII digits without leading zeros. Reading a run of digits
takes leading zeros too, and an empty run denotes nothing.
-/

namespace PagedJoins.Text

/-- The ASCII digits of a natural number, the most significant first. -/
def digits (n : Nat) : List Char :=
  Nat.toDigits 10 n

/-- A natural number in decimal notation. -/
def decimal (n : Nat) : String :=
  String.ofList (digits n)

/-- An integer in decimal notation, with a sign only if it is negative. -/
def signedDecimal (i : Int) : String :=
  if i < 0 then "-" ++ decimal i.natAbs else decimal i.natAbs

/-- The value of an ASCII digit. -/
def digitValue (c : Char) : Nat :=
  c.toNat - '0'.toNat

/-- The number that a run of ASCII digits denotes; `0` for the empty run. -/
def ofDigits (chars : List Char) : Nat :=
  chars.foldl (fun value c => 10 * value + digitValue c) 0

/-- Split off the leading run of ASCII digits. -/
def spanDigits (chars : List Char) : List Char × List Char :=
  (chars.takeWhile Char.isDigit, chars.dropWhile Char.isDigit)

/-- The number that the whole text denotes: at least one ASCII digit, no sign. -/
def readNat? (chars : List Char) : Option Nat :=
  if chars ≠ [] ∧ chars.all Char.isDigit then some (ofDigits chars) else none

@[simp] theorem toList_decimal (n : Nat) : (decimal n).toList = digits n :=
  String.toList_ofList

theorem digits_of_lt {n : Nat} (h : n < 10) : digits n = [n.digitChar] :=
  Nat.toDigits_of_lt_base h

theorem digits_of_ten_le {n : Nat} (h : 10 ≤ n) :
    digits n = digits (n / 10) ++ [(n % 10).digitChar] :=
  Nat.toDigits_of_base_le (by decide) h

end PagedJoins.Text
