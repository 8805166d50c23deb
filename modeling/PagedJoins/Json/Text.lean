import PagedJoins.Text.Decimal

/-!
# JSON strings

A string is written with the escapes that JSON demands and no others: the quote, the
backslash and the controls below U+0020. It may be read with any escape of the format.

An escape names a UTF-16 code unit, so a string may spell a surrogate that has no
partner. Such a string is well formed and can be skipped, but it denotes no text.
-/

namespace PagedJoins.Json

/-- The lower-case hexadecimal digit of a number below 16. -/
def hexDigit (n : Nat) : Char :=
  Nat.digitChar n

/-- One character of a string as JSON writes it. -/
def escapeChar (c : Char) : List Char :=
  if c = '"' then ['\\', '"']
  else if c = '\\' then ['\\', '\\']
  else if c = '\x08' then ['\\', 'b']
  else if c = '\t' then ['\\', 't']
  else if c = '\n' then ['\\', 'n']
  else if c = '\x0c' then ['\\', 'f']
  else if c = '\r' then ['\\', 'r']
  else if c.toNat < 0x20 then
    ['\\', 'u', '0', '0', hexDigit (c.toNat / 16), hexDigit (c.toNat % 16)]
  else [c]

/-- A text as a JSON string. -/
def quote (text : String) : String :=
  String.ofList ('"' :: text.toList.flatMap escapeChar ++ ['"'])

/-- A part of a string: a character, or a surrogate that an escape spells. -/
inductive Unit16 where
  | char (c : Char)
  | surrogate (unit : Nat)
  deriving DecidableEq, Repr

namespace Unit16

/-- The part that the escape of a code unit denotes. -/
def ofEscape (unit : Nat) : Unit16 :=
  if 0xD800 ≤ unit ∧ unit ≤ 0xDFFF then .surrogate unit else .char (Char.ofNat unit)

/-- The character of a high and a low surrogate. -/
def pair? (high low : Nat) : Option Char :=
  if high < 0xDC00 ∧ 0xDC00 ≤ low then
    some (Char.ofNat (0x10000 + (high - 0xD800) * 0x400 + (low - 0xDC00)))
  else
    none

/-- The text that the parts denote: each surrogate must be half of a pair. -/
def text? : List Unit16 → Option (List Char)
  | [] => some []
  | .char c :: rest => (text? rest).map (c :: ·)
  | .surrogate high :: .surrogate low :: rest => do
    let c ← pair? high low
    let chars ← text? rest
    return c :: chars
  | .surrogate _ :: _ => none

end Unit16

/-- The value of a hexadecimal digit. -/
def hexValue? (c : Char) : Option Nat :=
  if c.isDigit then some (Text.digitValue c)
  else if 'a' ≤ c ∧ c ≤ 'f' then some (c.toNat - 'a'.toNat + 10)
  else if 'A' ≤ c ∧ c ≤ 'F' then some (c.toNat - 'A'.toNat + 10)
  else none

theorem hexValue?_hexDigit {n : Nat} (h : n < 16) : hexValue? (hexDigit n) = some n := by
  revert n
  decide

/-- The code unit that four hexadecimal digits denote. -/
def codeUnit? (a b c d : Char) : Option Nat := do
  let a ← hexValue? a
  let b ← hexValue? b
  let c ← hexValue? c
  let d ← hexValue? d
  return ((a * 16 + b) * 16 + c) * 16 + d

/-- The character that a one-letter escape stands for. -/
def escaped? (c : Char) : Option Char :=
  if c = '"' ∨ c = '\\' ∨ c = '/' then some c
  else if c = 'b' then some '\x08'
  else if c = 'f' then some '\x0c'
  else if c = 'n' then some '\n'
  else if c = 'r' then some '\r'
  else if c = 't' then some '\t'
  else none

/-- Read a string from behind its opening quote to its closing quote. -/
def readUnits : List Char → Option (List Unit16 × List Char)
  | [] => none
  | '\\' :: 'u' :: a :: b :: c :: d :: rest => do
    let unit ← codeUnit? a b c d
    let (units, after) ← readUnits rest
    return (.ofEscape unit :: units, after)
  | '\\' :: c :: rest => do
    let c ← escaped? c
    let (units, after) ← readUnits rest
    return (.char c :: units, after)
  | c :: rest =>
    if c = '"' then
      some ([], rest)
    else if c = '\\' ∨ c.toNat < 0x20 then
      none
    else do
      let (units, after) ← readUnits rest
      return (.char c :: units, after)

end PagedJoins.Json
