import Mathlib.Data.List.TakeWhile
import PagedJoins.Binary.Layout
import PagedJoins.Proofs.Binary.Shortest
import PagedJoins.Proofs.Json.Text
import PagedJoins.Proofs.Text.Numeral

/-!
# The characters of a number

A finite number in positional form is digits of ASCII, perhaps behind a minus and perhaps with a
point among them: there is always a digit to start with, since the significant digits of a
number that is not zero are never all cut off.
-/

namespace PagedJoins

namespace Layout

theorem isDigit_of_mem_replicate {count : Nat} {d : Char} (member : d ∈ List.replicate count '0') :
    d.isDigit = true := by
  rw [(List.mem_replicate.mp member).2]
  rfl

theorem isPlain_positionalChars {digits : List Char} (some : digits ≠ [])
    (all : ∀ c ∈ digits, c.isDigit = true) (point : Int) :
    Text.IsPlain Char.isDigit (plain.positionalChars digits point) := by
  unfold positionalChars
  dsimp only
  split
  · -- All digits stand before the point, and zeros behind them up to it.
    refine .mk ⟨by simp [some], ?_⟩ .none
    intro c member
    rcases List.mem_append.mp member with digit | zero
    · exact all c digit
    · exact isDigit_of_mem_replicate zero
  · rename_i short
    split
    · rename_i before
      refine .mk ⟨?_, fun c member => all c (List.mem_of_mem_take member)⟩
        (.some ⟨?_, fun c member => all c (List.mem_of_mem_drop member)⟩)
      · intro none
        rcases List.take_eq_nil_iff.mp none with zero | empty
        · omega
        · exact some empty
      · intro none
        have past := List.drop_eq_nil_iff.mp none
        omega
    · have zero : Text.IsRun Char.isDigit ['0'] :=
        ⟨List.cons_ne_nil _ _, List.forall_mem_singleton.mpr (by decide)⟩
      have fraction : Text.IsFraction Char.isDigit
          ('.' :: (List.replicate (-point).toNat '0' ++ digits)) := by
        refine .some ⟨by simp [some], ?_⟩
        intro c member
        rcases List.mem_append.mp member with zero | digit
        · exact isDigit_of_mem_replicate zero
        · exact all c digit
      have plain : Text.IsPlain Char.isDigit
          (['0'] ++ '.' :: (List.replicate (-point).toNat '0' ++ digits)) :=
        .mk zero fraction
      exact plain

theorem isDigit_of_mem_significantDigits {n : Nat} {c : Char}
    (member : c ∈ (significantDigits n).1) : c.isDigit = true := by
  have among : c ∈ (Text.digits n).reverse :=
    List.dropWhile_subset _ (List.mem_reverse.mp member)
  exact Text.isDigit_of_mem_digits (List.mem_reverse.mp among)

theorem significantDigits_ne_nil {n : Nat} (nonzero : n ≠ 0) : (significantDigits n).1 ≠ [] := by
  intro none
  have dropped : (Text.digits n).reverse.dropWhile (· = '0') = [] := List.reverse_eq_nil_iff.mp none
  have zeros : ∀ c ∈ (Text.digits n).reverse, decide (c = '0') = true :=
    List.dropWhile_eq_nil_iff.mp dropped
  obtain ⟨c, rest, digits⟩ := List.exists_cons_of_ne_nil (Text.digits_ne_nil n)
  have zero : c = '0' := of_decide_eq_true (zeros c (by simp [digits]))
  have starts : (Text.digits n).head? = some '0' := by
    rw [digits, zero, List.head?_cons]
  exact Text.head?_digits (Nat.pos_of_ne_zero nonzero) starts

/-- The magnitude of a number of a format within the range of 64 bits is a number without a
sign. -/
theorem isPlain_magnitudeChars {format : BinaryFormat} {significand : Nat} {exponent : Int}
    (narrow : significand < Nat.pow 2 53) (least : -1074 ≤ exponent) (greatest : exponent ≤ 971) :
    Text.IsPlain Char.isDigit (plain.magnitudeChars format significand exponent) := by
  rw [magnitudeChars]
  split
  · exact isPlain_positionalChars (by decide) (by simp) 1
  · rename_i nonzero
    exact isPlain_positionalChars
      (significantDigits_ne_nil
        (Binary.shortest_coefficient_ne_zero nonzero narrow least greatest))
      (fun c member => isDigit_of_mem_significantDigits member) _

end Layout

end PagedJoins
