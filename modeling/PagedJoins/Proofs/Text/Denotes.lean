import Mathlib.Data.Nat.Digits.Defs
import Mathlib.Data.Rat.Cast.Order
import Mathlib.Tactic.FieldSimp
import Mathlib.Tactic.Ring
import PagedJoins.Proofs.Json.Text
import PagedJoins.Proofs.Text.Numeral

/-!
# What decimal numerals denote

A run of digits denotes a whole number, digits behind a point denote a fraction of a power of ten,
and a sign in front of them is that of the number.
-/

namespace PagedJoins.Text

/-! ## Runs of digits -/

theorem ofDigits_eq (chars : List Char) : ofDigits chars = Nat.ofDigitChars 10 chars 0 := rfl

theorem ofDigits_append (front back : List Char) :
    ofDigits (front ++ back) = ofDigits front * 10 ^ back.length + ofDigits back := by
  rw [ofDigits_eq, Nat.ofDigitChars_append, Nat.ofDigitChars_eq_ofDigitChars_zero, Nat.mul_comm]
  rfl

@[simp] theorem ofDigits_replicate_zero (count : Nat) :
    ofDigits (List.replicate count '0') = 0 := by
  rw [ofDigits_eq, Nat.ofDigitChars_replicate_zero, Nat.mul_zero]

theorem lt_ten_pow_length (n : Nat) : n < 10 ^ (digits n).length :=
  (Nat.length_toDigits_le_iff (by decide)
    (List.length_pos_of_ne_nil (digits_ne_nil n))).mp le_rfl

theorem ten_pow_length_le {n : Nat} (nonzero : n ≠ 0) : 10 ^ ((digits n).length - 1) ≤ n := by
  rcases Nat.eq_zero_or_pos ((digits n).length - 1) with single | more
  · rw [single, Nat.pow_zero]
    exact Nat.pos_of_ne_zero nonzero
  · by_contra less
    have fewer : (digits n).length ≤ (digits n).length - 1 :=
      (Nat.length_toDigits_le_iff (by decide) more).mpr (not_le.mp less)
    omega

/-! ## Numerals -/

/-- Digits with perhaps a fraction, and the number that they denote. -/
inductive DenotesPlain : List Char → ℚ → Prop where
  | whole {whole : List Char} (run : IsRun Char.isDigit whole) :
      DenotesPlain whole (ofDigits whole)
  | fraction {whole fraction : List Char} (run : IsRun Char.isDigit whole)
      (run' : IsRun Char.isDigit fraction) :
      DenotesPlain (whole ++ '.' :: fraction)
        (ofDigits whole + ofDigits fraction / 10 ^ fraction.length)

/-- A plain decimal numeral, which may have a sign, and the number that it denotes. -/
inductive Denotes : List Char → ℚ → Prop where
  | bare {chars : List Char} {q : ℚ} (plain : DenotesPlain chars q) : Denotes chars q
  | plus {chars : List Char} {q : ℚ} (plain : DenotesPlain chars q) : Denotes ('+' :: chars) q
  | minus {chars : List Char} {q : ℚ} (plain : DenotesPlain chars q) : Denotes ('-' :: chars) (-q)

/-- A plain numeral is a run of digits and perhaps another one behind a point; all the digits
together count the last place. -/
theorem DenotesPlain.parts {chars : List Char} {q : ℚ} (plain : DenotesPlain chars q) :
    ∃ whole fraction point, chars = whole ++ point ∧ IsRun Char.isDigit whole ∧
      (∀ c ∈ fraction, c.isDigit = true) ∧
      (point = [] ∧ fraction = [] ∨ point = '.' :: fraction) ∧
      q = ofDigits (whole ++ fraction) / 10 ^ fraction.length := by
  cases plain with
  | whole run =>
      refine ⟨chars, [], [], (List.append_nil _).symm, run, nofun, .inl ⟨rfl, rfl⟩, ?_⟩
      rw [List.append_nil, List.length_nil, pow_zero, div_one]
  | @fraction whole fraction run run' =>
      refine ⟨whole, fraction, '.' :: fraction, rfl, run, run'.2, .inr rfl, ?_⟩
      rw [ofDigits_append]
      push_cast
      field_simp

theorem DenotesPlain.head {chars : List Char} {q : ℚ} (plain : DenotesPlain chars q) :
    ∃ c rest, chars = c :: rest ∧ c.isDigit = true := by
  obtain ⟨whole, fraction, point, rfl, run, -⟩ := plain.parts
  obtain ⟨c, digits, rfl⟩ := List.exists_cons_of_ne_nil run.1
  exact ⟨c, digits ++ point, rfl, run.2 c (List.mem_cons_self ..)⟩

end PagedJoins.Text
