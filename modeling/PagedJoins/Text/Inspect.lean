import PagedJoins.Text.Printable

/-!
# Diagnostic form of a text

In a diagnostic a text stands between double quotes, and what would not show as itself
is escaped: the quote and the backslash, the common controls by their letters, and any
other character that is not printable by its code point.
-/

namespace PagedJoins.Text

/-- The hexadecimal digits of a number, in lower case and without leading zeros. -/
def hexadecimal (n : Nat) : List Char :=
  Nat.toDigits 16 n

/-- One character as it stands in a diagnostic. -/
def inspectChar (c : Char) : List Char :=
  if c = '"' then ['\\', '"']
  else if c = '\\' then ['\\', '\\']
  else if c = '\n' then ['\\', 'n']
  else if c = '\r' then ['\\', 'r']
  else if c = '\t' then ['\\', 't']
  else if c = '\x00' then ['\\', '0']
  else if isPrintable c then [c]
  else ['\\', 'u', '\x7b'] ++ hexadecimal c.toNat ++ ['\x7d']

/-- A text as it stands in a diagnostic. -/
def inspect (text : String) : String :=
  String.ofList ('"' :: text.toList.flatMap inspectChar ++ ['"'])

end PagedJoins.Text
