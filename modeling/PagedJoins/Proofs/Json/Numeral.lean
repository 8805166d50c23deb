import PagedJoins.Json.Numeral
import PagedJoins.Proofs.Binary.Rounding

/-!
# Numbers that are read

A JSON number is worked out in the 64-bit format, where one that is too large has no value, so what
is read as a number of that format is finite. A number of the 32-bit format is worked out in the
64-bit one as well and narrowed then. Nothing looks at the result, and it is infinite if the number
reaches the point where narrowing overflows.
-/

namespace PagedJoins

namespace BinaryFormat

/-- A format that has every integer of 64 bits in its range. -/
structure Wide (format : BinaryFormat) : Prop where
  sized : 0 < format.precision
  reach : (2 : ℚ) ^ 64 < format.threshold

theorem threshold_single : single.threshold = 2 ^ 128 - 2 ^ 103 := by
  norm_num [threshold, capacity, single]

theorem capacity_double : (double.capacity : ℚ) = 2 ^ 53 := by
  norm_num [capacity, double]

theorem wide_single : single.Wide where
  sized := by decide
  reach := by
    rw [threshold_single]
    norm_num

theorem wide_double : double.Wide where
  sized := by decide
  reach := by
    have units : (1 : ℚ) < double.capacity - 1 / 2 := by norm_num [capacity, double]
    calc (2 : ℚ) ^ 64 ≤ 2 ^ double.maxExponent := by
          rw [← zpow_natCast]
          exact zpow_le_zpow_right₀ one_le_two (by decide)
      _ < double.threshold := lt_mul_of_one_lt_left (by positivity) units

end BinaryFormat

namespace Json

variable {format : BinaryFormat}

theorem isFinite_nearest_whole (wide : format.Wide) (negative : Bool) {n : Nat}
    (fits : n ≤ 2 ^ 64) : (Binary.nearest format negative n 1).isFinite = true := by
  rw [Binary.isFinite_nearest_iff format wide.sized negative Nat.one_pos, Nat.cast_one, div_one]
  have small : (n : ℚ) ≤ 2 ^ 64 := by exact_mod_cast fits
  exact small.trans_lt wide.reach

theorem le_foldl_digits (significand : Nat) (chars : List Char) :
    significand ≤ chars.foldl (fun value c => 10 * value + Text.digitValue c) significand := by
  induction chars generalizing significand with
  | nil => exact Nat.le_refl _
  | cons c rest ih =>
      have next : significand ≤ 10 * significand + Text.digitValue c := by omega
      exact Nat.le_trans next (ih _)

/-- The digits of a number of 64 bits are all gathered. -/
theorem gather_of_fits {significand : Nat} {chars : List Char}
    (fits : chars.foldl (fun value c => 10 * value + Text.digitValue c) significand ≤
      maxSignificand) :
    gather significand chars =
      (chars.foldl (fun value c => 10 * value + Text.digitValue c) significand, []) := by
  induction chars generalizing significand with
  | nil => rfl
  | cons c rest ih =>
      have next : 10 * significand + Text.digitValue c ≤ maxSignificand :=
        Nat.le_trans (le_foldl_digits _ rest) fits
      rw [gather, if_pos next, ih fits]
      rfl

/-- The digits that are gathered make up no more than 64 bits. -/
theorem gather_le {significand : Nat} (fits : significand ≤ maxSignificand) (chars : List Char) :
    (gather significand chars).1 ≤ maxSignificand := by
  fun_induction gather significand chars with
  | case1 => exact fits
  | case2 significand c rest next more ih => exact ih more
  | case3 => exact fits

theorem one_le_powerOfTen (power : Nat) :
    0 < (powerOfTen power).1 ∧ 0 < (powerOfTen power).2 ∧
      (1 : ℚ) ≤ (powerOfTen power).1 / (powerOfTen power).2 := by
  by_cases finite : (Binary.nearest .double false (Nat.pow 10 power) 1).isFinite = true
  · obtain ⟨numerator, denominator, fraction, positive, same⟩ := Binary.fraction?_eq_some finite
    have power' : (1 : ℚ) ≤ (Nat.pow 10 power : Nat) / (1 : Nat) := by
      rw [Nat.cast_one, div_one]
      exact_mod_cast Nat.one_le_pow power 10 (by decide)
    have whole := Binary.one_le_magnitude_nearest BinaryFormat.wide_double.sized (by decide) false
      Nat.one_pos power' finite
    have nonzero : 0 < numerator := by
      rw [← same] at whole
      rcases Nat.eq_zero_or_pos numerator with rfl | above
      · norm_num at whole
      · exact above
    rw [powerOfTen, fraction, Option.getD_some]
    exact ⟨nonzero, positive, same.symm ▸ whole⟩
  · have other : (Binary.nearest .double false (Nat.pow 10 power) 1).isFinite = false :=
      eq_false_of_ne_true finite
    rw [powerOfTen, Binary.fraction?_eq_none other, Option.getD_none]
    norm_num

theorem isFinite_overPower {x : Binary .double} (finite : x.isFinite = true) (power : Nat) :
    (overPower x power).isFinite = true := by
  obtain ⟨above, -, whole⟩ := one_le_powerOfTen power
  have less : ((powerOfTen power).2 / (powerOfTen power).1 : ℚ) ≤ 1 := by
    rw [← inv_div]
    exact inv_le_one_of_one_le₀ whole
  have scaled : (x.scale (powerOfTen power).2 (powerOfTen power).1).isFinite = true := by
    rw [Binary.isFinite_scale_iff finite BinaryFormat.wide_double.sized above]
    exact (mul_le_of_le_one_right x.magnitude_nonneg less).trans_lt x.magnitude_lt_threshold
  exact scaled

theorem isFinite_of_scaled? {negative : Bool} {significand : Nat} {exponent : Int}
    {y : Binary .double} (fits : significand ≤ maxSignificand)
    (valued : scaled? negative significand exponent = some y) : y.isFinite = true := by
  have start : (Binary.nearest .double negative significand 1).isFinite = true :=
    isFinite_nearest_whole BinaryFormat.wide_double negative
      (Nat.le_trans fits (by decide))
  unfold scaled? at valued
  dsimp only at valued
  split at valued
  · cases valued
    exact start
  split at valued
  · cases valued
  split at valued
  · split at valued
    · rename_i finite
      cases valued
      exact finite
    · cases valued
  split at valued
  · rw [← Option.some.inj valued]
    exact isFinite_overPower start _
  split at valued
  · rw [← Option.some.inj valued]
    exact isFinite_overPower (isFinite_overPower start _) _
  · rw [← Option.some.inj valued]
    rfl

namespace Numeral

/-- A number that has a value in the 64-bit format has a finite one. -/
theorem isFinite_of_toDouble? {numeral : Numeral} {y : Binary .double}
    (valued : numeral.toDouble? = some y) : y.isFinite = true := by
  have whole : (gather 0 numeral.whole).1 ≤ maxSignificand := gather_le (Nat.zero_le _) _
  unfold toDouble? at valued
  dsimp only at valued
  split at valued
  · cases valued
    exact isFinite_nearest_whole BinaryFormat.wide_double _ (Nat.le_trans whole (by decide))
  · exact isFinite_of_scaled? (gather_le whole _) valued

/-- Does the number spell an integer of 64 bits? -/
def IsWord (numeral : Numeral) : Prop :=
  ∃ i, numeral.toInt? = some i ∧ Int64.minValue.toInt ≤ i ∧ i < UInt64.size

theorem natAbs_le_maxSignificand {i : Int}
    (range : Int64.minValue.toInt ≤ i ∧ i < UInt64.size) : i.natAbs ≤ maxSignificand := by
  have least : Int64.minValue.toInt = -9223372036854775808 := by decide
  have greatest : UInt64.size = 18446744073709551616 := rfl
  rw [maxSignificand]
  omega

theorem toInt?_eq_some {numeral : Numeral} {i : Int} (spelled : numeral.toInt? = some i) :
    numeral.fraction = [] ∧ numeral.exponent = none ∧ Text.ofDigits numeral.whole = i.natAbs := by
  unfold toInt? at spelled
  split at spelled
  · rename_i plain
    refine ⟨plain.1, plain.2, ?_⟩
    dsimp only at spelled
    split at spelled
    · split at spelled
      · cases spelled
      · cases spelled
        omega
    · cases spelled
      omega
  · cases spelled

/-- A number that spells an integer of 64 bits is rounded once. -/
theorem toBinary?_of_isWord {numeral : Numeral} (word : numeral.IsWord) (format : BinaryFormat) :
    ∃ i : Int, i.natAbs ≤ 2 ^ 64 ∧ numeral.toBinary? format = some (Binary.ofInt format i) := by
  obtain ⟨i, spelled, range⟩ := word
  refine ⟨i, Nat.le_trans (natAbs_le_maxSignificand range) (by decide), ?_⟩
  unfold toBinary?
  rw [spelled]
  exact if_pos range

/-- Any other number is narrowed from the 64-bit format. -/
theorem toBinary?_of_not_isWord {numeral : Numeral} (other : ¬ numeral.IsWord)
    (format : BinaryFormat) :
    numeral.toBinary? format = numeral.toDouble?.map (·.convert format) := by
  unfold toBinary?
  split
  · rename_i i spelled
    exact if_neg fun range => other ⟨i, spelled, range⟩
  · rfl

theorem magnitude_of_isWord {numeral : Numeral} (word : numeral.IsWord) {y : Binary .double}
    (valued : numeral.toDouble? = some y) : y.magnitude ≤ 2 ^ 64 := by
  obtain ⟨i, spelled, range⟩ := word
  obtain ⟨fraction, exponent, whole⟩ := toInt?_eq_some spelled
  have fits : Text.ofDigits numeral.whole ≤ maxSignificand :=
    whole.le.trans (natAbs_le_maxSignificand range)
  unfold toDouble? at valued
  rw [gather_of_fits fits] at valued
  dsimp only at valued
  rw [if_pos ⟨rfl, fraction, exponent⟩] at valued
  cases valued
  have small : ((Text.ofDigits numeral.whole : Nat) / (1 : Nat) : ℚ) ≤ 2 ^ (64 : Int) := by
    have word : Text.ofDigits numeral.whole ≤ 2 ^ 64 := Nat.le_trans fits (by decide)
    rw [Nat.cast_one, div_one]
    exact_mod_cast word
  exact Binary.magnitude_nearest_le BinaryFormat.wide_double.sized _ Nat.one_pos (by decide) small

/-- Does the number reach the point where narrowing to 32 bits overflows? -/
def OverflowsSingle (numeral : Numeral) : Prop :=
  ∃ y, numeral.toDouble? = some y ∧ (2 : ℚ) ^ 128 - 2 ^ 103 ≤ y.magnitude

theorem isFinite_of_toBinary?_double {numeral : Numeral} {x : Binary .double}
    (valued : numeral.toBinary? .double = some x) : x.isFinite = true := by
  by_cases word : numeral.IsWord
  · obtain ⟨i, small, rounded⟩ := toBinary?_of_isWord word .double
    cases rounded.symm.trans valued
    exact isFinite_nearest_whole BinaryFormat.wide_double _ small
  · rw [toBinary?_of_not_isWord word] at valued
    obtain ⟨y, found, rfl⟩ := Option.map_eq_some_iff.mp valued
    exact (Binary.isFinite_convert_iff (isFinite_of_toDouble? found) _
      BinaryFormat.wide_double.sized).mpr y.magnitude_lt_threshold

/-- What is read as a number of the 32-bit format is infinite if the number overflows, and finite
if not. -/
theorem toBinary?_single {numeral : Numeral} {x : Binary .single}
    (valued : numeral.toBinary? .single = some x) :
    (numeral.OverflowsSingle ∧ ∃ negative, x = .infinite negative) ∨
      ¬ numeral.OverflowsSingle ∧ x.isFinite = true := by
  by_cases word : numeral.IsWord
  · obtain ⟨i, small, rounded⟩ := toBinary?_of_isWord word .single
    cases rounded.symm.trans valued
    refine .inr ⟨?_, isFinite_nearest_whole BinaryFormat.wide_single _ small⟩
    rintro ⟨y, found, overflows⟩
    have less := overflows.trans (magnitude_of_isWord word found)
    norm_num at less
  · rw [toBinary?_of_not_isWord word] at valued
    obtain ⟨y, found, rfl⟩ := Option.map_eq_some_iff.mp valued
    have finite := isFinite_of_toDouble? found
    have range := Binary.isFinite_convert_iff finite .single BinaryFormat.wide_single.sized
    rw [BinaryFormat.threshold_single] at range
    by_cases kept : (y.convert .single).isFinite = true
    · refine .inr ⟨?_, kept⟩
      rintro ⟨other, again, overflows⟩
      cases found.symm.trans again
      exact not_lt.mpr overflows (range.mp kept)
    · exact .inl ⟨⟨y, found, not_lt.mp (mt range.mpr kept)⟩, _,
        Binary.convert_eq_infinite finite .single (eq_false_of_ne_true kept)⟩

end Numeral

end Json

end PagedJoins
