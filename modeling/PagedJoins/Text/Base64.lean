/-!
# Base64

The standard alphabet with padding. Three bytes make four characters; a last group of
one or two bytes is filled with zero bits and padded with `=`.

Reading is strict. The padding is required, nothing may stand between the characters,
and the filling bits must be zero, so every sequence of bytes has exactly one text.
-/

namespace PagedJoins.Text.Base64

/-- The character for a group of six bits. -/
def symbol (sextet : Nat) : Char :=
  if sextet < 26 then Char.ofNat ('A'.toNat + sextet)
  else if sextet < 52 then Char.ofNat ('a'.toNat + (sextet - 26))
  else if sextet < 62 then Char.ofNat ('0'.toNat + (sextet - 52))
  else if sextet = 62 then '+'
  else '/'

/-- The six bits that a character stands for. -/
def sextet? (c : Char) : Option Nat :=
  if 'A' ≤ c ∧ c ≤ 'Z' then some (c.toNat - 'A'.toNat)
  else if 'a' ≤ c ∧ c ≤ 'z' then some (c.toNat - 'a'.toNat + 26)
  else if '0' ≤ c ∧ c ≤ '9' then some (c.toNat - '0'.toNat + 52)
  else if c = '+' then some 62
  else if c = '/' then some 63
  else none

/-- The characters for a sequence of bytes. -/
def encode : List UInt8 → List Char
  | [] => []
  | [a] =>
    let bits := a.toNat * 16
    [symbol (bits / 64), symbol (bits % 64), '=', '=']
  | [a, b] =>
    let bits := (a.toNat * 256 + b.toNat) * 4
    [symbol (bits / 4096), symbol (bits / 64 % 64), symbol (bits % 64), '=']
  | a :: b :: c :: rest =>
    let bits := (a.toNat * 256 + b.toNat) * 256 + c.toNat
    symbol (bits / 262144) :: symbol (bits / 4096 % 64) :: symbol (bits / 64 % 64) ::
      symbol (bits % 64) :: encode rest

/-- The byte of a last group of two characters, if its filling bits are zero. -/
def decodeOne (x y : Nat) : Option (List UInt8) :=
  let bits := x * 64 + y
  if bits % 16 = 0 then some [UInt8.ofNat (bits / 16)] else none

/-- The bytes of a last group of three characters, if its filling bits are zero. -/
def decodeTwo (x y z : Nat) : Option (List UInt8) :=
  let bits := (x * 64 + y) * 64 + z
  if bits % 4 = 0 then
    some [UInt8.ofNat (bits / 1024), UInt8.ofNat (bits / 4 % 256)]
  else
    none

/-- The three bytes of a full group. -/
def decodeThree (x y z w : Nat) : List UInt8 :=
  let bits := ((x * 64 + y) * 64 + z) * 64 + w
  [UInt8.ofNat (bits / 65536), UInt8.ofNat (bits / 256 % 256), UInt8.ofNat (bits % 256)]

/-- The bytes that a text stands for, if it is the text of any. -/
def decode : List Char → Option (List UInt8)
  | [] => some []
  | a :: b :: c :: d :: rest => do
    let x ← sextet? a
    let y ← sextet? b
    if rest = [] ∧ c = '=' ∧ d = '=' then
      decodeOne x y
    else
      let z ← sextet? c
      if rest = [] ∧ d = '=' then
        decodeTwo x y z
      else
        let w ← sextet? d
        let bytes ← decode rest
        return decodeThree x y z w ++ bytes
  | _ => none

end PagedJoins.Text.Base64
