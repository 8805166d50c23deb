import PagedJoins.Proofs.Binary.Nearest
import PagedJoins.Proofs.Json.Numeral

/-!
# How exactly a number is read

A number is worked out in the 64-bit format by rounding its significand, rounding a power of ten,
and rounding their product or quotient; a power past 308 is divided off in two steps. Each rounding
moves a value by no more than a part in `2 ^ 53`, so the result is off by a few such parts. A
significand of up to 53 bits and a power of ten up to 22 are not moved at all, and then the number
is rounded only once.
-/

namespace PagedJoins.Json

/-! ## Relative errors -/

/-- Is a value off another one by no more than a part of that? -/
def Within (part a b : ℚ) : Prop :=
  |a - b| ≤ part * b

namespace Within

variable {ε δ a b c A B : ℚ}

theorem refl (a : ℚ) : Within 0 a a := by
  rw [Within, sub_self, abs_zero, zero_mul]

theorem mono (within : Within ε a A) (nonneg : 0 ≤ A) (less : ε ≤ δ) : Within δ a A :=
  within.trans (mul_le_mul_of_nonneg_right less nonneg)

theorem eq (within : Within 0 a A) : a = A := by
  rw [Within, zero_mul, abs_nonpos_iff, sub_eq_zero] at within
  exact within

theorem mul (first : Within ε a A) (second : Within δ b B) (nonneg : 0 ≤ A) (nonneg' : 0 ≤ B)
    (part : 0 ≤ ε) : Within (ε + δ + ε * δ) (a * b) (A * B) := by
  have split : a * b - A * B = (a - A) * (b - B) + (a - A) * B + A * (b - B) := by ring
  calc |a * b - A * B|
      ≤ |a - A| * |b - B| + |a - A| * B + A * |b - B| := by
        rw [split]
        refine (abs_add_three _ _ _).trans ?_
        rw [abs_mul, abs_mul, abs_mul, abs_of_nonneg nonneg, abs_of_nonneg nonneg']
    _ ≤ (ε * A) * (δ * B) + (ε * A) * B + A * (δ * B) := by
        gcongr
        · exact first
        · exact second
        · exact first
        · exact second
    _ = (ε + δ + ε * δ) * (A * B) := by ring

theorem div (first : Within ε a A) (second : Within δ b B) (nonneg : 0 ≤ A) (positive : 0 < B)
    (less : δ < 1) : Within ((ε + δ) / (1 - δ)) (a / b) (A / B) := by
  have left : (1 - δ) * B ≤ b := by
    have low := (abs_le.mp second).1
    linarith
  have rest : 0 < (1 - δ) * B := mul_pos (by linarith) positive
  have divisor : 0 < b := rest.trans_le left
  have split : a / b - A / B = ((a - A) * B - A * (b - B)) / (b * B) := by
    field_simp
    ring
  have top : |(a - A) * B - A * (b - B)| ≤ (ε + δ) * A * B := by
    calc |(a - A) * B - A * (b - B)| ≤ |a - A| * B + A * |b - B| := by
          refine (abs_sub _ _).trans ?_
          rw [abs_mul, abs_mul, abs_of_nonneg nonneg, abs_of_pos positive]
      _ ≤ (ε * A) * B + A * (δ * B) := by
          gcongr
          · exact first
          · exact second
      _ = (ε + δ) * A * B := by ring
  have parts : 0 ≤ (ε + δ) * A * B := (abs_nonneg _).trans top
  rw [Within, split, abs_div, abs_of_pos (mul_pos divisor positive)]
  calc |(a - A) * B - A * (b - B)| / (b * B)
      ≤ (ε + δ) * A * B / ((1 - δ) * B * B) := by gcongr
    _ = (ε + δ) / (1 - δ) * (A / B) := by
        have positive' : 0 < 1 - δ := by linarith
        field_simp

end Within

/-! ## One rounding -/

/-- The part by which a rounding moves a value at most. -/
def roundingError : ℚ := 1 / 2 ^ 53

theorem roundingError_pos : 0 < roundingError := by
  norm_num [roundingError]

section Rounding

variable {numerator denominator : Nat}

/-- A rounding moves a value by a part of it, or by a part of the least value that fills the
width. -/
theorem abs_nearest_sub_le (negative : Bool) (positive : 0 < denominator)
    (finite : (Binary.nearest .double negative numerator denominator).isFinite = true) :
    |(Binary.nearest .double negative numerator denominator).magnitude - numerator / denominator| ≤
      roundingError * max (numerator / denominator : ℚ) (2 ^ (-1022 : Int)) := by
  have least : (2 : ℚ) ^ BinaryFormat.double.minExponent / 2 =
      roundingError * 2 ^ (-1022 : Int) := by
    have below : (2 : ℚ) ^ (-1022 + -52 : Int) = 2 ^ (-1022 : Int) * 2 ^ (-52 : Int) :=
      zpow_add₀ two_ne_zero _ _
    rw [show BinaryFormat.double.minExponent = -1022 + -52 from rfl, below, roundingError]
    generalize (2 : ℚ) ^ (-1022 : Int) = full
    norm_num
    ring
  have part : (numerator / denominator : ℚ) / 2 ^ BinaryFormat.double.precision =
      roundingError * (numerator / denominator) := by
    rw [roundingError, show BinaryFormat.double.precision = 53 from rfl]
    ring
  have moved := Binary.abs_magnitude_nearest_sub_le_max (by decide) negative positive finite
  rw [least, part, ← mul_max_of_nonneg _ _ roundingError_pos.le] at moved
  exact moved

/-- A rounding moves a value that fills the width by no more than a part of it. -/
theorem within_nearest (negative : Bool) (positive : 0 < denominator)
    (finite : (Binary.nearest .double negative numerator denominator).isFinite = true)
    (normal : (2 : ℚ) ^ (-1022 : Int) ≤ numerator / denominator) :
    Within roundingError (Binary.nearest .double negative numerator denominator).magnitude
      (numerator / denominator) := by
  have moved := abs_nearest_sub_le negative positive finite
  rw [max_eq_left normal] at moved
  exact moved

end Rounding

/-! ## Significands and powers of ten -/

/-- The part by which rounding moves a significand. -/
def significandError (significand : Nat) : ℚ :=
  if significand < 2 ^ 53 then 0 else roundingError

/-- The part by which rounding moves a power of ten. -/
def powerError (power : Nat) : ℚ :=
  if power ≤ 22 then 0 else roundingError

theorem significandError_bounds (significand : Nat) :
    0 ≤ significandError significand ∧ significandError significand ≤ roundingError := by
  unfold significandError
  split
  · exact ⟨le_rfl, roundingError_pos.le⟩
  · exact ⟨roundingError_pos.le, le_rfl⟩

theorem powerError_bounds (power : Nat) :
    0 ≤ powerError power ∧ powerError power ≤ roundingError := by
  unfold powerError
  split
  · exact ⟨le_rfl, roundingError_pos.le⟩
  · exact ⟨roundingError_pos.le, le_rfl⟩

theorem within_significand (negative : Bool) {significand : Nat} (nonzero : significand ≠ 0)
    (fits : significand ≤ maxSignificand) :
    (Binary.nearest .double negative significand 1).isFinite = true ∧
      Within (significandError significand)
        (Binary.nearest .double negative significand 1).magnitude significand := by
  have finite := isFinite_nearest_whole BinaryFormat.wide_double negative
    (Nat.le_trans fits (by decide) : significand ≤ 2 ^ 64)
  have whole : (significand / (1 : Nat) : ℚ) = significand := by rw [Nat.cast_one, div_one]
  have some : (1 : ℚ) ≤ significand := by exact_mod_cast Nat.one_le_iff_ne_zero.mpr nonzero
  refine ⟨finite, ?_⟩
  unfold significandError
  split
  · rename_i narrow
    have kept : (Binary.nearest .double negative significand 1).magnitude =
        (significand / (1 : Nat) : ℚ) := by
      refine Binary.magnitude_nearest_of_units (by decide) negative Nat.one_pos finite
        significand 0 (by decide) ?_ ?_
      · rw [whole, zpow_zero, mul_one]
        exact_mod_cast narrow
      · rw [whole, zpow_zero, mul_one]
    rw [kept, whole]
    exact Within.refl _
  · have within := within_nearest negative Nat.one_pos finite (by
      rw [whole]
      exact (zpow_le_one_of_nonpos₀ one_le_two (by decide)).trans some)
    rw [whole] at within
    exact within

theorem powerOfTen_exact {power : Nat} (small : power ≤ 22) :
    (powerOfTen power).1 = 10 ^ power * (powerOfTen power).2 := by
  have each : ∀ k ≤ 22, (powerOfTen k).1 = 10 ^ k * (powerOfTen k).2 := by decide +kernel
  exact each power small

theorem ten_pow_mono {p q : Nat} (less : p ≤ q) : Nat.pow 10 p ≤ Nat.pow 10 q :=
  Nat.pow_le_pow_right (by decide) less

theorem isFinite_of_powerOfTen {power : Nat} (found : powerOfTen power ≠ (1, 1)) :
    (Binary.nearest .double false (Nat.pow 10 power) 1).isFinite = true := by
  by_contra infinite
  apply found
  rw [powerOfTen, Binary.fraction?_eq_none (eq_false_of_ne_true infinite), Option.getD_none]

theorem isFinite_powerOfTen {power : Nat} (reach : power ≤ 308) :
    (Binary.nearest .double false (Nat.pow 10 power) 1).isFinite = true := by
  have greatest := isFinite_of_powerOfTen (show powerOfTen 308 ≠ (1, 1) by decide +kernel)
  rw [Binary.isFinite_nearest_iff .double (by decide) false Nat.one_pos, Nat.cast_one,
    div_one] at greatest ⊢
  exact (Nat.cast_le.mpr (ten_pow_mono reach)).trans_lt greatest

theorem within_powerOfTen {power : Nat} (reach : power ≤ 308) :
    Within (powerError power) ((powerOfTen power).1 / (powerOfTen power).2) (10 ^ power) := by
  obtain ⟨-, below, -⟩ := one_le_powerOfTen power
  have below' : (0 : ℚ) < (powerOfTen power).2 := by exact_mod_cast below
  unfold powerError
  split
  · rename_i small
    have same : ((powerOfTen power).1 / (powerOfTen power).2 : ℚ) = 10 ^ power := by
      rw [div_eq_iff below'.ne']
      exact_mod_cast powerOfTen_exact small
    rw [same]
    exact Within.refl _
  · have whole : ((Nat.pow 10 power : Nat) / (1 : Nat) : ℚ) = 10 ^ power := by
      rw [Nat.cast_one, div_one, Nat.pow_eq, Nat.cast_pow, Nat.cast_ofNat]
    have finite : (Binary.nearest .double false (Nat.pow 10 power) 1).isFinite = true :=
      isFinite_powerOfTen reach
    obtain ⟨n, d, fraction, -, same⟩ := Binary.fraction?_eq_some finite
    have within := within_nearest false Nat.one_pos finite (by
      rw [whole]
      exact (zpow_le_one_of_nonpos₀ one_le_two (by decide)).trans (one_le_pow₀ (by norm_num)))
    rw [powerOfTen, fraction, Option.getD_some, same]
    rw [whole] at within
    exact within

/-! ## Scaling -/

/-- A finite number times a fraction is rounded once. -/
theorem scale_eq_nearest {x : Binary .double} (finite : x.isFinite = true) (n : Nat) {d : Nat}
    (positive : 0 < d) :
    ∃ N D : Nat, 0 < D ∧ (N / D : ℚ) = x.magnitude * (n / d) ∧
      x.scale n d = Binary.nearest .double x.isNegative N D := by
  obtain ⟨a, b, fraction, below, same⟩ := Binary.fraction?_eq_some finite
  refine ⟨a * n, b * d, Nat.mul_pos below positive, ?_, ?_⟩
  · rw [← same]
    push_cast
    exact mul_div_mul_comm _ _ _ _
  · rw [Binary.scale, fraction]

theorem timesPower_eq {x : Binary .double} (finite : x.isFinite = true) {power : Nat}
    (reach : power ≤ 308) :
    ∃ N D : Nat, 0 < D ∧ timesPower x power = Binary.nearest .double x.isNegative N D ∧
      ∀ {ε a : ℚ}, 0 ≤ ε → 0 ≤ a → Within ε x.magnitude a →
        Within ((ε + powerError power) / (1 - powerError power)) (N / D) (a * 10 ^ power) := by
  obtain ⟨-, below, -⟩ := one_le_powerOfTen power
  obtain ⟨N, D, positive, value, rounded⟩ := scale_eq_nearest finite (powerOfTen power).1 below
  refine ⟨N, D, positive, rounded, fun part nonneg within => ?_⟩
  obtain ⟨least, most⟩ := powerError_bounds power
  have less : roundingError < 1 := by norm_num [roundingError]
  rw [value]
  refine (within.mul (within_powerOfTen reach) nonneg (by positivity) part).mono
    (by positivity) ?_
  rw [le_div_iff₀ (by linarith)]
  nlinarith [mul_nonneg part (sq_nonneg (powerError power)), sq_nonneg (powerError power)]

theorem overPower_eq {x : Binary .double} (finite : x.isFinite = true) {power : Nat}
    (reach : power ≤ 308) :
    ∃ N D : Nat, 0 < D ∧ overPower x power = Binary.nearest .double x.isNegative N D ∧
      ∀ {ε a : ℚ}, 0 ≤ ε → 0 ≤ a → Within ε x.magnitude a →
        Within ((ε + powerError power) / (1 - powerError power)) (N / D) (a / 10 ^ power) := by
  obtain ⟨above, -, -⟩ := one_le_powerOfTen power
  obtain ⟨N, D, positive, value, rounded⟩ := scale_eq_nearest finite (powerOfTen power).2 above
  refine ⟨N, D, positive, rounded, fun part nonneg within => ?_⟩
  have less : powerError power < 1 :=
    (powerError_bounds power).2.trans_lt (by norm_num [roundingError])
  rw [value, ← mul_div_assoc, ← div_div_eq_mul_div]
  exact within.div (within_powerOfTen reach) nonneg (by positivity) less

/-- The part by which a number is moved before its last rounding. -/
def scalingError (significand : Nat) (exponent : Int) : ℚ :=
  (significandError significand + powerError exponent.natAbs) / (1 - powerError exponent.natAbs)

theorem scalingError_bounds (significand : Nat) (exponent : Int) :
    0 ≤ scalingError significand exponent ∧
      scalingError significand exponent ≤ (2 + 1 / 1000) * roundingError := by
  obtain ⟨least, most⟩ := significandError_bounds significand
  obtain ⟨least', most'⟩ := powerError_bounds exponent.natAbs
  have unit : roundingError = 1 / 2 ^ 53 := rfl
  have room : (1 : ℚ) - roundingError ≤ 1 - powerError exponent.natAbs := by linarith
  have positive : (0 : ℚ) < 1 - roundingError := by norm_num [unit]
  have twice : (0 : ℚ) ≤ roundingError + roundingError := by norm_num [unit]
  constructor
  · exact div_nonneg (by linarith) (by linarith)
  · calc scalingError significand exponent
        ≤ (roundingError + roundingError) / (1 - roundingError) := by
          unfold scalingError
          gcongr
      _ ≤ (2 + 1 / 1000) * roundingError := by norm_num [unit]

section Scaled

variable {significand : Nat} {exponent : Int}

/-- A power of ten in reach is multiplied or divided by, and the outcome is rounded. -/
theorem scaled?_in_reach (negative : Bool) (nonzero : significand ≠ 0)
    (fits : significand ≤ maxSignificand) (reach : exponent.natAbs ≤ 308) :
    ∃ N D : Nat, 0 < D ∧
      Within (scalingError significand exponent) (N / D) (significand * 10 ^ exponent) ∧
      ((N / D : ℚ) < BinaryFormat.double.threshold →
        scaled? negative significand exponent = some (Binary.nearest .double negative N D)) := by
  obtain ⟨finite, within⟩ := within_significand negative nonzero fits
  have sign : (Binary.nearest .double negative significand 1).isNegative = negative :=
    Binary.isNegative_nearest negative
  have part := (significandError_bounds significand).1
  have near : ¬ 308 < exponent := by omega
  by_cases up : 0 ≤ exponent
  · obtain ⟨N, D, positive, rounded, moved⟩ := timesPower_eq finite reach
    refine ⟨N, D, positive, ?_, fun below => ?_⟩
    · have power : (10 : ℚ) ^ exponent = 10 ^ exponent.natAbs := by
        rw [← zpow_natCast, Int.natAbs_of_nonneg up]
      rw [power]
      exact moved part (Nat.cast_nonneg _) within
    · have same : exponent.toNat = exponent.natAbs := by omega
      have kept : (Binary.nearest .double negative N D).isFinite = true :=
        (Binary.isFinite_nearest_iff .double (by decide) negative positive).mpr below
      rw [scaled?]
      dsimp only
      rw [if_neg nonzero, if_neg near, if_pos up, same, rounded, sign, if_pos kept]
  · obtain ⟨N, D, positive, rounded, moved⟩ := overPower_eq finite reach
    refine ⟨N, D, positive, ?_, fun _ => ?_⟩
    · have power : (significand * 10 ^ exponent : ℚ) = significand / 10 ^ exponent.natAbs := by
        rw [div_eq_mul_inv, ← zpow_natCast, ← zpow_neg]
        congr 2
        omega
      rw [power]
      exact moved part (Nat.cast_nonneg _) within
    · have same : (-exponent).toNat = exponent.natAbs := by omega
      rw [scaled?]
      dsimp only
      rw [if_neg nonzero, if_neg near, if_neg up, same, if_pos reach, rounded, sign]

/-- A number whose significand and power of ten the format has is rounded once. -/
theorem scaled?_exact (negative : Bool) (nonzero : significand ≠ 0)
    (narrow : significand < 2 ^ 53) (small : exponent.natAbs ≤ 22) :
    ∃ N D : Nat, 0 < D ∧ (N / D : ℚ) = significand * 10 ^ exponent ∧
      ((N / D : ℚ) < BinaryFormat.double.threshold →
        scaled? negative significand exponent = some (Binary.nearest .double negative N D)) := by
  have fits : significand ≤ maxSignificand := narrow.le.trans (by decide)
  obtain ⟨N, D, positive, within, read⟩ :=
    scaled?_in_reach negative nonzero fits (small.trans (by decide))
  have none : scalingError significand exponent = 0 := by
    rw [scalingError, significandError, if_pos narrow, powerError, if_pos small]
    norm_num
  rw [none] at within
  exact ⟨N, D, positive, within.eq, read⟩

/-- A number that fits the width at a place is moved by half a unit of that place at most, behind a
part that comes from its power of ten. -/
theorem scaled?_at_place (negative : Bool) (nonzero : significand ≠ 0)
    (narrow : significand < 2 ^ 53) (reach : exponent.natAbs ≤ 308) (place : Int)
    (least : BinaryFormat.double.minExponent ≤ place)
    (greatest : place ≤ BinaryFormat.double.maxExponent - 1)
    (within : (significand * 10 ^ exponent : ℚ) * (1 + 2 * roundingError) ≤ 2 ^ 53 * 2 ^ place) :
    ∃ y, scaled? negative significand exponent = some y ∧ y.isFinite = true ∧
      y.isNegative = negative ∧
      |y.magnitude - significand * 10 ^ exponent| ≤
        (1 + 1 / 1000) * roundingError * (significand * 10 ^ exponent) + 2 ^ place / 2 := by
  have fits : significand ≤ maxSignificand := narrow.le.trans (by decide)
  obtain ⟨N, D, positive, moved, read⟩ := scaled?_in_reach negative nonzero fits reach
  have unit : roundingError = 1 / 2 ^ 53 := rfl
  have small : scalingError significand exponent ≤ (1 + 1 / 1000) * roundingError := by
    obtain ⟨least', most'⟩ := powerError_bounds exponent.natAbs
    have positive : (0 : ℚ) < 1 - roundingError := by norm_num [unit]
    have once := roundingError_pos.le
    calc scalingError significand exponent
        = powerError exponent.natAbs / (1 - powerError exponent.natAbs) := by
          rw [scalingError, significandError, if_pos narrow, zero_add]
      _ ≤ roundingError / (1 - roundingError) := by gcongr
      _ ≤ (1 + 1 / 1000) * roundingError := by norm_num [unit]
  have value : (0 : ℚ) < significand * 10 ^ exponent := by
    have some : (0 : ℚ) < significand := by exact_mod_cast Nat.pos_of_ne_zero nonzero
    positivity
  have moved' := moved.mono value.le small
  obtain ⟨low, high⟩ := abs_le.mp moved'
  have error : roundingError ≤ 1 / 1000 := by norm_num [unit]
  have above : (N / D : ℚ) < 2 ^ 53 * 2 ^ place := by
    refine lt_of_lt_of_le ?_ within
    nlinarith [roundingError_pos]
  have below : (N / D : ℚ) < BinaryFormat.double.threshold := by
    refine above.trans_le ?_
    have powers : (2 : ℚ) ^ place ≤ 2 ^ (BinaryFormat.double.maxExponent - 1) :=
      zpow_le_zpow_right₀ one_le_two greatest
    have step : (2 : ℚ) ^ BinaryFormat.double.maxExponent =
        2 * 2 ^ (BinaryFormat.double.maxExponent - 1) := by
      rw [zpow_sub_one₀ two_ne_zero]
      ring
    rw [BinaryFormat.threshold, step, BinaryFormat.capacity_double]
    linarith
  have finite := (Binary.isFinite_nearest_iff .double (by decide) negative positive).mpr below
  refine ⟨_, read below, finite, Binary.isNegative_nearest negative, ?_⟩
  have some : 0 < N := by
    rcases Nat.eq_zero_or_pos N with rfl | some
    · rw [Nat.cast_zero, zero_div] at low
      nlinarith [roundingError_pos]
    · exact some
  have last : Binary.lastPlace .double N D ≤ place := by
    refine Binary.lastPlace_le_of_lt (by decide) some positive least (above.trans_eq ?_)
    rw [BinaryFormat.capacity_double]
  have half : (2 : ℚ) ^ Binary.lastPlace .double N D ≤ 2 ^ place :=
    zpow_le_zpow_right₀ one_le_two last
  have rounded := Binary.abs_magnitude_nearest_sub_le (by decide) negative positive finite
  refine (abs_sub_le _ (N / D : ℚ) _).trans ?_
  linarith [show |(N / D : ℚ) - significand * 10 ^ exponent| ≤ _ from moved']

/-- The scale of the errors of a value: the value itself, unless it is too small to fill the
width. -/
def errorScale (value : ℚ) : ℚ :=
  roundingError * max value (2 ^ (-1022 : Int))

theorem errorScale_nonneg (value : ℚ) : 0 ≤ errorScale value :=
  mul_nonneg roundingError_pos.le (le_max_of_le_right (by positivity))

/-- One rounding more adds one part to an error. -/
theorem abs_nearest_sub_le_of_close (negative : Bool) {N D : Nat} (positive : 0 < D)
    (finite : (Binary.nearest .double negative N D).isFinite = true) {value parts : ℚ}
    (few : parts ≤ 4) (close : |(N / D : ℚ) - value| ≤ parts * errorScale value) :
    |(Binary.nearest .double negative N D).magnitude - value| ≤
      (parts + 1 + 1 / 100) * errorScale value := by
  have unit : roundingError ≤ 1 / 1000 := by norm_num [roundingError]
  have rounded := abs_nearest_sub_le negative positive finite
  have scale := errorScale_nonneg value
  have wider : max (N / D : ℚ) (2 ^ (-1022 : Int)) ≤
      (1 + 1 / 100) * max value (2 ^ (-1022 : Int)) := by
    have full : (0 : ℚ) < 2 ^ (-1022 : Int) := by positivity
    have least := le_max_right value ((2 : ℚ) ^ (-1022 : Int))
    have most := le_max_left value ((2 : ℚ) ^ (-1022 : Int))
    have small : errorScale value ≤ 1 / 1000 * max value (2 ^ (-1022 : Int)) :=
      mul_le_mul_of_nonneg_right unit (full.le.trans least)
    have high := (abs_le.mp close).2
    have product : parts * errorScale value ≤ 4 * errorScale value :=
      mul_le_mul_of_nonneg_right few scale
    apply max_le <;> linarith
  have again : roundingError * max (N / D : ℚ) (2 ^ (-1022 : Int)) ≤
      (1 + 1 / 100) * errorScale value := by
    rw [errorScale, mul_left_comm]
    exact mul_le_mul_of_nonneg_left wider roundingError_pos.le
  refine (abs_sub_le _ (N / D : ℚ) _).trans ?_
  linarith

theorem le_errorScale (value : ℚ) : roundingError * value ≤ errorScale value :=
  mul_le_mul_of_nonneg_left (le_max_left _ _) roundingError_pos.le

/-- A power of ten in reach is applied at the cost of three parts. -/
theorem scaled?_error_in_reach (negative : Bool) (nonzero : significand ≠ 0)
    (fits : significand ≤ maxSignificand) (reach : exponent.natAbs ≤ 308)
    (room : (significand * 10 ^ exponent : ℚ) * (1 + 3 * roundingError) <
      BinaryFormat.double.threshold) :
    ∃ y, scaled? negative significand exponent = some y ∧ y.isFinite = true ∧
      y.isNegative = negative ∧
      |y.magnitude - significand * 10 ^ exponent| ≤
        (3 + 1 / 50) * errorScale (significand * 10 ^ exponent) := by
  obtain ⟨N, D, positive, moved, read⟩ := scaled?_in_reach negative nonzero fits reach
  have value : (0 : ℚ) ≤ significand * 10 ^ exponent := by positivity
  have moved' := moved.mono value (scalingError_bounds significand exponent).2
  have close : |(N / D : ℚ) - significand * 10 ^ exponent| ≤
      (2 + 1 / 1000) * errorScale (significand * 10 ^ exponent) := by
    refine (show |(N / D : ℚ) - significand * 10 ^ exponent| ≤ _ from moved').trans ?_
    rw [mul_assoc]
    exact mul_le_mul_of_nonneg_left (le_errorScale _) (by norm_num)
  have below : (N / D : ℚ) < BinaryFormat.double.threshold := by
    refine lt_of_le_of_lt ?_ room
    have high := (abs_le.mp moved').2
    nlinarith [mul_nonneg roundingError_pos.le value]
  have finite := (Binary.isFinite_nearest_iff .double (by decide) negative positive).mpr below
  refine ⟨_, read below, finite, Binary.isNegative_nearest negative, ?_⟩
  refine (abs_nearest_sub_le_of_close negative positive finite (by norm_num) close).trans ?_
  exact mul_le_mul_of_nonneg_right (by norm_num) (errorScale_nonneg _)

theorem errorScale_div_le {value c : ℚ} (one : 1 ≤ c) :
    errorScale value / c ≤ errorScale (value / c) := by
  have positive : 0 < c := one_pos.trans_le one
  have parts : max value (2 ^ (-1022 : Int)) / c ≤ max (value / c) (2 ^ (-1022 : Int)) := by
    rw [← max_div_div_right positive.le]
    exact max_le_max le_rfl (div_le_self (by positivity) one)
  rw [errorScale, errorScale, mul_div_assoc]
  exact mul_le_mul_of_nonneg_left parts roundingError_pos.le

/-- A power of ten below reach is divided off in two steps, at the cost of four parts. -/
theorem scaled?_error_below_reach (negative : Bool) (nonzero : significand ≠ 0)
    (fits : significand ≤ maxSignificand) {power : Nat} (small : power ≤ 22) (some : 0 < power) :
    ∃ y, scaled? negative significand (-(308 + power : Nat)) = Option.some y ∧
      y.isFinite = true ∧ y.isNegative = negative ∧
      |y.magnitude - significand * 10 ^ (-(308 + power : Nat) : Int)| ≤
        (4 + 1 / 10) * errorScale (significand * 10 ^ (-(308 + power : Nat) : Int)) := by
  obtain ⟨finite, within⟩ := within_significand negative nonzero fits
  obtain ⟨N, D, positive, rounded, moved⟩ := overPower_eq finite (le_refl 308)
  have finite' := isFinite_overPower finite 308
  obtain ⟨N', D', positive', rounded', moved'⟩ :=
    overPower_eq finite' (small.trans (by decide) : power ≤ 308)
  have finite'' := isFinite_overPower finite' power
  have sign : (overPower (Binary.nearest .double negative significand 1) 308).isNegative =
      negative := by
    rw [rounded, Binary.isNegative_nearest, Binary.isNegative_nearest]
  have read : scaled? negative significand (-(308 + power : Nat)) =
      Option.some (Binary.nearest .double negative N' D') := by
    have steps : (- -((308 + power : Nat) : Int)).toNat = 308 + power := by omega
    have rest : 308 + power - 308 = power := by omega
    rw [scaled?]
    dsimp only
    rw [if_neg nonzero, if_neg (by omega), if_neg (by omega), steps, if_neg (by omega),
      if_pos (by omega), rest, rounded', sign]
  have value : (significand * 10 ^ (-(308 + power : Nat) : Int) : ℚ) =
      significand / 10 ^ 308 / 10 ^ power := by
    rw [zpow_neg, zpow_natCast, pow_add, div_div, div_eq_mul_inv]
  -- The first step.
  have first : |(overPower (Binary.nearest .double negative significand 1) 308).magnitude -
      significand / 10 ^ 308| ≤ (3 + 1 / 50) * errorScale (significand / 10 ^ 308) := by
    have start : Within (scalingError significand 308) (N / D : ℚ) (significand / 10 ^ 308) :=
      moved (significandError_bounds significand).1 (Nat.cast_nonneg _) within
    have quotient : (0 : ℚ) ≤ significand / 10 ^ 308 := by positivity
    have start' := start.mono quotient (scalingError_bounds significand 308).2
    have close : |(N / D : ℚ) - significand / 10 ^ 308| ≤
        (2 + 1 / 1000) * errorScale (significand / 10 ^ 308) := by
      refine (show |(N / D : ℚ) - significand / 10 ^ 308| ≤ _ from start').trans ?_
      rw [mul_assoc]
      exact mul_le_mul_of_nonneg_left (le_errorScale _) (by norm_num)
    rw [rounded] at finite' ⊢
    refine (abs_nearest_sub_le_of_close _ positive finite' (by norm_num) close).trans ?_
    exact mul_le_mul_of_nonneg_right (by norm_num) (errorScale_nonneg _)
  -- The second step divides by a power of ten that the format has.
  have second : (N' / D' : ℚ) =
      (overPower (Binary.nearest .double negative significand 1) 308).magnitude / 10 ^ power := by
    have exactly := moved' le_rfl (Binary.magnitude_nonneg _) (Within.refl _)
    rw [powerError, if_pos small, add_zero, zero_div] at exactly
    exact exactly.eq
  have ten : (1 : ℚ) ≤ 10 ^ power := one_le_pow₀ (by norm_num)
  have close : |(N' / D' : ℚ) - significand / 10 ^ 308 / 10 ^ power| ≤
      (3 + 1 / 50) * errorScale (significand / 10 ^ 308 / 10 ^ power) := by
    rw [second, ← sub_div, abs_div, abs_of_pos (one_pos.trans_le ten),
      div_le_iff₀ (one_pos.trans_le ten)]
    refine first.trans ?_
    rw [mul_assoc]
    apply mul_le_mul_of_nonneg_left _ (by norm_num)
    rw [← div_le_iff₀ (one_pos.trans_le ten)]
    exact errorScale_div_le ten
  rw [rounded'] at finite''
  refine ⟨_, read, ?_, Binary.isNegative_nearest negative, ?_⟩
  · rw [sign] at finite''
    exact finite''
  · rw [value]
    rw [sign] at finite''
    refine (abs_nearest_sub_le_of_close negative positive' finite'' (by norm_num) close).trans ?_
    exact mul_le_mul_of_nonneg_right (by norm_num) (errorScale_nonneg _)

end Scaled

end PagedJoins.Json
