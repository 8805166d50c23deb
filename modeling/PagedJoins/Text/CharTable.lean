/-!
# Tables of characters

A character property of the Unicode standard is a list of closed ranges of code
points. A table says nothing but membership, so two tables may overlap freely.
-/

namespace PagedJoins.Text

/-- A set of characters, as closed ranges of code points. -/
structure CharTable where
  ranges : List (Nat × Nat)

namespace CharTable

/-- Is the character's code point in one of the ranges? -/
def contains (table : CharTable) (c : Char) : Bool :=
  table.ranges.any fun range => range.1 ≤ c.toNat && c.toNat ≤ range.2

theorem contains_iff {table : CharTable} {c : Char} :
    table.contains c = true ↔
      ∃ range ∈ table.ranges, range.1 ≤ c.toNat ∧ c.toNat ≤ range.2 := by
  simp [contains]

end CharTable

end PagedJoins.Text
