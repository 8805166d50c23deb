import Mathlib.Algebra.Order.Field.Power
import Mathlib.Data.Rat.Cast.Order
import Mathlib.Tactic.FieldSimp
import Mathlib.Tactic.Linarith
import Mathlib.Tactic.NormNum
import Mathlib.Tactic.Positivity
import Mathlib.Tactic.Qify
import Mathlib.Tactic.Ring
import PagedJoins.Binary.Rounding

/-!
# Where rounding overflows

A fraction is rounded to a finite number of a format exactly if it is below the point half way
between the greatest number of the format and the next one that there would be. At that point the
tie goes to the even significand, which is the one that there is no room for. So a conversion to a
narrower format is where a finite number may become infinite, and the only place.
-/

namespace PagedJoins

/-! ## Rounded quotients -/

section Quotients

variable {numerator denominator m : Nat}

theorem roundDiv_le (positive : 0 < denominator) (fits : numerator ≤ m * denominator) :
    roundDiv numerator denominator ≤ m := by
  have whole := Nat.div_add_mod' numerator denominator
  have quotient : numerator / denominator ≤ m := Nat.div_le_of_le_mul (by rwa [Nat.mul_comm])
  unfold roundDiv
  dsimp only
  rcases Nat.lt_or_eq_of_le quotient with below | equal
  · split
    · omega
    · split <;> omega
  · -- The quotient is the whole number itself, so nothing is left over.
    rw [equal] at whole
    rw [if_pos (by omega)]
    omega

theorem le_roundDiv (positive : 0 < denominator) (fits : m * denominator ≤ numerator) :
    m ≤ roundDiv numerator denominator := by
  have quotient : m ≤ numerator / denominator := (Nat.le_div_iff_mul_le positive).mpr fits
  unfold roundDiv
  dsimp only
  split
  · exact quotient
  · split <;> omega

theorem le_roundDiv_iff_of_even (positive : 0 < denominator) (even : m % 2 = 0) :
    m ≤ roundDiv numerator denominator ↔ 2 * (m * denominator) ≤ 2 * numerator + denominator := by
  have whole := Nat.div_add_mod' numerator denominator
  have part := Nat.mod_lt numerator positive
  have next : (numerator / denominator + 1) * denominator =
      numerator / denominator * denominator + denominator :=
    Nat.succ_mul _ _
  rcases Nat.lt_trichotomy m (numerator / denominator + 1) with below | equal | above
  · have reached : m * denominator ≤ numerator / denominator * denominator :=
      Nat.mul_le_mul_right denominator (Nat.le_of_lt_succ below)
    exact iff_of_true (le_roundDiv positive (by omega)) (by omega)
  · -- Half a unit is missing at most, and the quotient below an even number is odd.
    have odd : numerator / denominator % 2 = 1 := by omega
    rw [equal, next]
    unfold roundDiv
    dsimp only
    rw [odd]
    split
    · omega
    · split <;> omega
  · have missed : (numerator / denominator + 2) * denominator ≤ m * denominator :=
      Nat.mul_le_mul_right denominator above
    rw [Nat.add_mul] at missed
    refine iff_of_false ?_ (by omega)
    intro reached
    have within : roundDiv numerator denominator ≤ numerator / denominator + 1 :=
      roundDiv_le positive (by omega)
    omega

end Quotients

/-! ## Fractions in units of a power of two -/

section Fractions

variable {numerator denominator : Nat}

theorem two_zpow_eq (exponent : Int) :
    (2 : ℚ) ^ exponent = 2 ^ exponent.toNat / 2 ^ (-exponent).toNat := by
  rcases Int.le_total 0 exponent with nonneg | nonpos
  · rw [Int.toNat_of_nonpos (Int.neg_nonpos_of_nonneg nonneg), pow_zero, div_one, ← zpow_natCast,
      Int.toNat_of_nonneg nonneg]
  · rw [Int.toNat_of_nonpos nonpos, pow_zero, one_div, ← zpow_natCast,
      Int.toNat_of_nonneg (Int.neg_nonneg_of_nonpos nonpos), zpow_neg, inv_inv]

theorem fraction_eq_units (numerator denominator : Nat) (exponent : Int) :
    (numerator / denominator : ℚ) =
      ((numerator * 2 ^ (-exponent).toNat : Nat) / (denominator * 2 ^ exponent.toNat : Nat)) *
        2 ^ exponent := by
  rw [two_zpow_eq]
  push_cast
  field_simp

theorem roundedAt_eq (numerator denominator : Nat) (exponent : Int) :
    Binary.roundedAt numerator denominator exponent =
      roundDiv (numerator * 2 ^ (-exponent).toNat) (denominator * 2 ^ exponent.toNat) := by
  unfold Binary.roundedAt
  split
  · rename_i nonneg
    rw [Int.toNat_of_nonpos (Int.neg_nonpos_of_nonneg nonneg), Nat.pow_zero, Nat.mul_one]
    rfl
  · rename_i negative
    rw [Int.toNat_of_nonpos (Int.le_of_not_le negative), Nat.pow_zero, Nat.mul_one]
    rfl

theorem le_fraction_iff (positive : 0 < denominator) (m : Nat) (exponent : Int) :
    (m * 2 ^ exponent : ℚ) ≤ numerator / denominator ↔
      m * (denominator * 2 ^ exponent.toNat) ≤ numerator * 2 ^ (-exponent).toNat := by
  have units : (0 : ℚ) < (denominator * 2 ^ exponent.toNat : Nat) := by
    exact_mod_cast Nat.mul_pos positive (Nat.two_pow_pos _)
  rw [fraction_eq_units numerator denominator exponent,
    mul_le_mul_iff_left₀ (by positivity), le_div_iff₀ units]
  exact_mod_cast Iff.rfl

theorem fraction_le_iff (positive : 0 < denominator) (m : Nat) (exponent : Int) :
    (numerator / denominator : ℚ) ≤ m * 2 ^ exponent ↔
      numerator * 2 ^ (-exponent).toNat ≤ m * (denominator * 2 ^ exponent.toNat) := by
  have units : (0 : ℚ) < (denominator * 2 ^ exponent.toNat : Nat) := by
    exact_mod_cast Nat.mul_pos positive (Nat.two_pow_pos _)
  rw [fraction_eq_units numerator denominator exponent,
    mul_le_mul_iff_left₀ (by positivity), div_le_iff₀ units]
  exact_mod_cast Iff.rfl

namespace Binary

theorem roundedAt_le (positive : 0 < denominator) {m : Nat} {exponent : Int}
    (fits : (numerator / denominator : ℚ) ≤ m * 2 ^ exponent) :
    roundedAt numerator denominator exponent ≤ m := by
  rw [roundedAt_eq]
  exact roundDiv_le (Nat.mul_pos positive (Nat.two_pow_pos _))
    ((fraction_le_iff positive m exponent).mp fits)

theorem le_roundedAt (positive : 0 < denominator) {m : Nat} {exponent : Int}
    (fits : (m * 2 ^ exponent : ℚ) ≤ numerator / denominator) :
    m ≤ roundedAt numerator denominator exponent := by
  rw [roundedAt_eq]
  exact le_roundDiv (Nat.mul_pos positive (Nat.two_pow_pos _))
    ((le_fraction_iff positive m exponent).mp fits)

theorem le_roundedAt_iff_of_even (positive : 0 < denominator) {m : Nat} (even : m % 2 = 0)
    (exponent : Int) :
    m ≤ roundedAt numerator denominator exponent ↔
      ((m - 1 / 2) * 2 ^ exponent : ℚ) ≤ numerator / denominator := by
  have units : 0 < denominator * 2 ^ exponent.toNat := Nat.mul_pos positive (Nat.two_pow_pos _)
  have units' : (0 : ℚ) < (denominator * 2 ^ exponent.toNat : Nat) := by exact_mod_cast units
  rw [roundedAt_eq, le_roundDiv_iff_of_even units even,
    fraction_eq_units numerator denominator exponent, mul_le_mul_iff_left₀ (by positivity),
    le_div_iff₀ units']
  generalize denominator * 2 ^ exponent.toNat = d
  generalize numerator * 2 ^ (-exponent).toNat = n
  qify
  constructor <;> intro h <;> linarith

end Binary

theorem reaches_iff (positive : 0 < denominator) (k : Int) :
    (if 0 ≤ k then denominator * Nat.pow 2 k.toNat ≤ numerator
      else denominator ≤ numerator * Nat.pow 2 (-k).toNat) ↔
      (2 : ℚ) ^ k ≤ numerator / denominator := by
  have units : ((1 : Nat) * 2 ^ k : ℚ) ≤ numerator / denominator ↔
      1 * (denominator * 2 ^ k.toNat) ≤ numerator * 2 ^ (-k).toNat :=
    le_fraction_iff positive 1 k
  rw [Nat.cast_one, one_mul, Nat.one_mul] at units
  rw [units]
  split
  · rename_i nonneg
    rw [Int.toNat_of_nonpos (Int.neg_nonpos_of_nonneg nonneg), Nat.pow_zero, Nat.mul_one]
    rfl
  · rename_i negative
    rw [Int.toNat_of_nonpos (Int.le_of_not_le negative), Nat.pow_zero, Nat.mul_one]
    rfl

/-- The difference of the logarithms of two numbers is that of their quotient, or one more. -/
theorem log2_sub_log2 (above : 0 < numerator) (positive : 0 < denominator) :
    (2 : ℚ) ^ ((numerator.log2 : Int) - denominator.log2 - 1) ≤ numerator / denominator ∧
      (numerator / denominator : ℚ) < 2 ^ ((numerator.log2 : Int) - denominator.log2 + 1) := by
  have least : ((2 ^ numerator.log2 : Nat) : ℚ) ≤ numerator := by
    exact_mod_cast Nat.log2_self_le (Nat.ne_of_gt above)
  have greatest : (numerator : ℚ) < (2 ^ (numerator.log2 + 1) : Nat) := by
    exact_mod_cast Nat.lt_log2_self
  have least' : ((2 ^ denominator.log2 : Nat) : ℚ) ≤ denominator := by
    exact_mod_cast Nat.log2_self_le (Nat.ne_of_gt positive)
  have greatest' : (denominator : ℚ) < (2 ^ (denominator.log2 + 1) : Nat) := by
    exact_mod_cast Nat.lt_log2_self
  have positive' : (0 : ℚ) < denominator := by exact_mod_cast positive
  push_cast at least greatest least' greatest'
  constructor
  · rw [le_div_iff₀ positive']
    calc (2 : ℚ) ^ ((numerator.log2 : Int) - denominator.log2 - 1) * denominator
        ≤ 2 ^ ((numerator.log2 : Int) - denominator.log2 - 1) * 2 ^ (denominator.log2 + 1) := by
          gcongr
      _ = 2 ^ numerator.log2 := by
          rw [← zpow_natCast, ← zpow_natCast, ← zpow_add₀ two_ne_zero]
          congr 1
          push_cast
          ring
      _ ≤ numerator := least
  · rw [div_lt_iff₀ positive']
    calc (numerator : ℚ) < 2 ^ (numerator.log2 + 1) := greatest
      _ = 2 ^ ((numerator.log2 : Int) - denominator.log2 + 1) * 2 ^ denominator.log2 := by
          rw [← zpow_natCast, ← zpow_natCast, ← zpow_add₀ two_ne_zero]
          congr 1
          push_cast
          ring
      _ ≤ 2 ^ ((numerator.log2 : Int) - denominator.log2 + 1) * denominator := by
          gcongr

/-- The logarithm of a fraction, rounded down. -/
theorem floorLog2_spec (above : 0 < numerator) (positive : 0 < denominator) :
    (2 : ℚ) ^ floorLog2 numerator denominator ≤ numerator / denominator ∧
      (numerator / denominator : ℚ) < 2 ^ (floorLog2 numerator denominator + 1) := by
  obtain ⟨least, greatest⟩ := log2_sub_log2 above positive
  by_cases reached : (2 : ℚ) ^ ((numerator.log2 : Int) - denominator.log2) ≤
      numerator / denominator
  · have same : floorLog2 numerator denominator = numerator.log2 - denominator.log2 :=
      if_pos ((reaches_iff positive _).mpr reached)
    rw [same]
    exact ⟨reached, greatest⟩
  · have less : floorLog2 numerator denominator = numerator.log2 - denominator.log2 - 1 :=
      if_neg (mt (reaches_iff positive _).mp reached)
    rw [less, Int.sub_add_cancel]
    exact ⟨least, not_le.mp reached⟩

end Fractions

/-! ## The nearest number -/

namespace BinaryFormat

/-- The point half way between the greatest number of a format and the next one that there would
be. -/
def threshold (format : BinaryFormat) : ℚ :=
  (format.capacity - 1 / 2) * 2 ^ format.maxExponent

theorem capacity_eq (format : BinaryFormat) (sized : 0 < format.precision) :
    format.capacity = 2 * 2 ^ (format.precision - 1) := by
  obtain ⟨digits, wide⟩ := Nat.exists_eq_add_one_of_ne_zero (Nat.ne_of_gt sized)
  rw [capacity, wide, Nat.add_sub_cancel]
  exact Nat.pow_succ'

theorem capacity_pos (format : BinaryFormat) : 0 < format.capacity :=
  Nat.two_pow_pos _

end BinaryFormat

namespace Binary

variable {format : BinaryFormat} {numerator denominator : Nat}

/-- The exponent of the last place that a fraction has in a format. -/
def lastPlace (format : BinaryFormat) (numerator denominator : Nat) : Int :=
  let place := floorLog2 numerator denominator - (format.precision - 1)
  if place < format.minExponent then format.minExponent else place

/-- A significand that has become too wide is halved. -/
def carried (format : BinaryFormat) (significand : Nat) (exponent : Int) : Nat × Int :=
  if significand = format.capacity then (significand / 2, exponent + 1)
  else (significand, exponent)

/-- The significand and the exponent that a fraction is rounded to. -/
def rounded (format : BinaryFormat) (numerator denominator : Nat) : Nat × Int :=
  carried format (roundedAt numerator denominator (lastPlace format numerator denominator))
    (lastPlace format numerator denominator)

theorem nearest_eq (negative : Bool) (nonzero : numerator ≠ 0) :
    nearest format negative numerator denominator =
      if canonical : format.Canonical (rounded format numerator denominator).1
          (rounded format numerator denominator).2 then
        .finite negative _ _ canonical
      else .infinite negative := by
  rw [nearest, if_neg nonzero]
  rfl

/-- The last place of a fraction has the fraction within its width, and filling it unless the
exponent is the least. -/
theorem lastPlace_spec (format : BinaryFormat) (sized : 0 < format.precision)
    (above : 0 < numerator) (positive : 0 < denominator) :
    format.minExponent ≤ lastPlace format numerator denominator ∧
      (numerator / denominator : ℚ) <
        format.capacity * 2 ^ lastPlace format numerator denominator ∧
      (lastPlace format numerator denominator = format.minExponent ∨
        ((2 ^ (format.precision - 1) : Nat) : ℚ) * 2 ^ lastPlace format numerator denominator ≤
          numerator / denominator) := by
  obtain ⟨least, greatest⟩ := floorLog2_spec above positive
  have capacity : (format.capacity : ℚ) = 2 ^ (format.precision : Int) := by
    rw [zpow_natCast, BinaryFormat.capacity]
    exact Nat.cast_pow 2 _
  have half : ((2 ^ (format.precision - 1) : Nat) : ℚ) = 2 ^ ((format.precision : Int) - 1) := by
    rw [Nat.cast_pow, Nat.cast_two, ← zpow_natCast, Nat.cast_sub sized, Nat.cast_one]
  have within : floorLog2 numerator denominator + 1 ≤
      format.precision + lastPlace format numerator denominator := by
    unfold lastPlace
    dsimp only
    split <;> omega
  refine ⟨?_, ?_, ?_⟩
  · unfold lastPlace
    dsimp only
    split <;> omega
  · rw [capacity, ← zpow_add₀ two_ne_zero]
    exact greatest.trans_le (zpow_le_zpow_right₀ one_le_two within)
  · unfold lastPlace
    dsimp only
    split
    · exact .inl rfl
    · right
      rw [half, ← zpow_add₀ two_ne_zero, add_sub_cancel]
      exact least

/-- The significand of a fraction fits the width or is one too wide, and fills it unless the
exponent is the least. -/
theorem roundedAt_lastPlace (format : BinaryFormat) (sized : 0 < format.precision)
    (above : 0 < numerator) (positive : 0 < denominator) :
    roundedAt numerator denominator (lastPlace format numerator denominator) ≤ format.capacity ∧
      (lastPlace format numerator denominator = format.minExponent ∨
        format.capacity ≤
          2 * roundedAt numerator denominator (lastPlace format numerator denominator)) := by
  obtain ⟨-, within, fills⟩ := lastPlace_spec format sized above positive
  refine ⟨roundedAt_le positive within.le, fills.imp id fun half => ?_⟩
  rw [format.capacity_eq sized]
  exact Nat.mul_le_mul_left 2 (le_roundedAt positive half)

theorem canonical_rounded_iff (format : BinaryFormat) (sized : 0 < format.precision)
    (above : 0 < numerator) (positive : 0 < denominator) :
    format.Canonical (rounded format numerator denominator).1
        (rounded format numerator denominator).2 ↔
      (rounded format numerator denominator).2 ≤ format.maxExponent := by
  refine ⟨fun canonical => canonical.2.2.1, fun small => ?_⟩
  obtain ⟨least, -, -⟩ := lastPlace_spec format sized above positive
  obtain ⟨fits, fills⟩ := roundedAt_lastPlace format sized above positive
  have even : format.capacity = 2 * 2 ^ (format.precision - 1) := format.capacity_eq sized
  have half : 0 < 2 ^ (format.precision - 1) := Nat.two_pow_pos _
  unfold rounded carried at small ⊢
  split
  · rename_i wide
    rw [if_pos wide] at small
    refine ⟨?_, ?_, small, .inl ?_⟩ <;> dsimp only <;> omega
  · rename_i narrow
    rw [if_neg narrow] at small
    exact ⟨by dsimp only; omega, least, small, fills.symm⟩

theorem rounded_snd_le_iff (format : BinaryFormat) (sized : 0 < format.precision)
    (above : 0 < numerator) (positive : 0 < denominator) :
    (rounded format numerator denominator).2 ≤ format.maxExponent ↔
      (numerator / denominator : ℚ) < format.threshold := by
  obtain ⟨-, within, fills⟩ := lastPlace_spec format sized above positive
  obtain ⟨fits, -⟩ := roundedAt_lastPlace format sized above positive
  have capacity : format.capacity = 2 * 2 ^ (format.precision - 1) := format.capacity_eq sized
  have even : format.capacity % 2 = 0 := by rw [capacity, Nat.mul_mod_right]
  have room : (1 : ℚ) ≤ format.capacity := by exact_mod_cast format.capacity_pos
  have reached : format.capacity ≤
      roundedAt numerator denominator (lastPlace format numerator denominator) ↔
      ((format.capacity - 1 / 2) * 2 ^ lastPlace format numerator denominator : ℚ) ≤
        numerator / denominator :=
    le_roundedAt_iff_of_even positive even _
  unfold rounded carried BinaryFormat.threshold
  generalize lastPlace format numerator denominator = exponent at *
  have grows : ∀ {a b : Int}, a ≤ b →
      ((format.capacity - 1 / 2) * 2 ^ a : ℚ) ≤ (format.capacity - 1 / 2) * 2 ^ b :=
    fun less => mul_le_mul_of_nonneg_left (zpow_le_zpow_right₀ one_le_two less) (by linarith)
  split
  · rename_i wide
    have half := reached.mp wide.ge
    constructor
    · intro small
      have doubled : (2 : ℚ) ^ (exponent + 1) = 2 * 2 ^ exponent := by
        rw [zpow_add_one₀ two_ne_zero, mul_comm]
      calc (numerator / denominator : ℚ) < format.capacity * 2 ^ exponent := within
        _ ≤ (format.capacity - 1 / 2) * 2 ^ (exponent + 1) := by
            rw [doubled, ← mul_assoc]
            gcongr
            linarith
        _ ≤ _ := grows small
    · intro below
      by_contra large
      exact absurd (below.trans_le (grows (by omega))) (not_lt.mpr half)
  · rename_i narrow
    have short := not_le.mp (mt reached.mpr (by omega))
    constructor
    · exact fun small => short.trans_le (grows small)
    · intro below
      by_contra large
      have filled : ((2 ^ (format.precision - 1) : Nat) : ℚ) * 2 ^ exponent ≤
          numerator / denominator :=
        fills.resolve_left fun least => large (least ▸ format.ordered)
      have past : (format.capacity : ℚ) * 2 ^ format.maxExponent ≤
          ((2 ^ (format.precision - 1) : Nat) : ℚ) * 2 ^ exponent := by
        have doubled : (2 : ℚ) ^ (format.maxExponent + 1) = 2 * 2 ^ format.maxExponent := by
          rw [zpow_add_one₀ two_ne_zero, mul_comm]
        calc (format.capacity : ℚ) * 2 ^ format.maxExponent
            = ((2 ^ (format.precision - 1) : Nat) : ℚ) * 2 ^ (format.maxExponent + 1) := by
              rw [doubled, capacity]
              push_cast
              ring
          _ ≤ _ := by
              gcongr
              · exact one_le_two
              · omega
      have less : ((format.capacity - 1 / 2) * 2 ^ format.maxExponent : ℚ) ≤
          format.capacity * 2 ^ format.maxExponent := by
        gcongr
        linarith
      exact absurd (below.trans_le (less.trans past)) (not_lt.mpr filled)

/-- A fraction is rounded to a finite number exactly if it is below the point half way past the
greatest one. -/
theorem isFinite_nearest_iff (format : BinaryFormat) (sized : 0 < format.precision)
    (negative : Bool) (positive : 0 < denominator) :
    (nearest format negative numerator denominator).isFinite = true ↔
      (numerator / denominator : ℚ) < format.threshold := by
  by_cases nonzero : numerator = 0
  · have room : (1 : ℚ) ≤ format.capacity := by exact_mod_cast format.capacity_pos
    subst nonzero
    refine iff_of_true rfl ?_
    rw [Nat.cast_zero, zero_div, BinaryFormat.threshold]
    exact mul_pos (by linarith) (by positivity)
  · have above : 0 < numerator := Nat.pos_of_ne_zero nonzero
    rw [← rounded_snd_le_iff format sized above positive,
      ← canonical_rounded_iff format sized above positive, nearest_eq negative nonzero]
    split
    · rename_i canonical
      exact iff_of_true rfl canonical
    · rename_i wide
      exact iff_of_false nofun wide

/-! ## Magnitudes -/

/-- The magnitude of a finite number. -/
def magnitude : Binary format → ℚ
  | .finite _ significand exponent _ => significand * 2 ^ exponent
  | _ => 0

theorem magnitude_nonneg (x : Binary format) : 0 ≤ x.magnitude := by
  cases x with
  | nan => exact le_rfl
  | infinite negative => exact le_rfl
  | finite negative significand exponent canonical =>
      rw [magnitude]
      positivity

theorem fraction?_eq_none {x : Binary format} (other : x.isFinite = false) : x.fraction? = none := by
  cases x with
  | nan => rfl
  | infinite negative => rfl
  | finite negative significand exponent canonical => cases other

theorem fraction?_eq_some {x : Binary format} (finite : x.isFinite = true) :
    ∃ numerator denominator, x.fraction? = some (numerator, denominator) ∧ 0 < denominator ∧
      (numerator / denominator : ℚ) = x.magnitude := by
  cases x with
  | nan => cases finite
  | infinite negative => cases finite
  | finite negative significand exponent canonical =>
      rw [fraction?, magnitude, two_zpow_eq]
      split
      · rename_i nonneg
        refine ⟨_, 1, rfl, Nat.one_pos, ?_⟩
        rw [Int.toNat_of_nonpos (Int.neg_nonpos_of_nonneg nonneg)]
        simp
      · rename_i small
        refine ⟨significand, _, rfl, Nat.two_pow_pos _, ?_⟩
        rw [Int.toNat_of_nonpos (Int.le_of_not_le small)]
        simp [div_eq_mul_inv]

theorem magnitude_lt_threshold (x : Binary format) : x.magnitude < format.threshold := by
  have room : (1 : ℚ) ≤ format.capacity := by exact_mod_cast format.capacity_pos
  have positive : (0 : ℚ) < format.threshold :=
    mul_pos (by linarith) (by positivity)
  cases x with
  | nan => exact positive
  | infinite negative => exact positive
  | finite negative significand exponent canonical =>
      have narrow : (significand : ℚ) + 1 ≤ format.capacity := by exact_mod_cast canonical.1
      have small : (2 : ℚ) ^ exponent ≤ 2 ^ format.maxExponent :=
        zpow_le_zpow_right₀ one_le_two canonical.2.2.1
      calc (significand : ℚ) * 2 ^ exponent ≤ significand * 2 ^ format.maxExponent := by gcongr
        _ < (format.capacity - 1 / 2) * 2 ^ format.maxExponent := by
            apply mul_lt_mul_of_pos_right _ (by positivity)
            linarith

/-- A finite number in another format is the nearest number to its fraction. -/
theorem convert_eq_nearest {x : Binary format} (target : BinaryFormat)
    (fraction : x.fraction? = some (numerator, denominator)) :
    x.convert target = nearest target x.isNegative numerator denominator := by
  unfold convert
  rw [fraction]

theorem isFinite_convert_iff {x : Binary format} (finite : x.isFinite = true)
    (target : BinaryFormat) (sized : 0 < target.precision) :
    (x.convert target).isFinite = true ↔ x.magnitude < target.threshold := by
  obtain ⟨numerator, denominator, fraction, positive, same⟩ := fraction?_eq_some finite
  rw [convert_eq_nearest target fraction,
    isFinite_nearest_iff target sized x.isNegative positive, same]

theorem nearest_eq_infinite (negative : Bool)
    (wide : (nearest format negative numerator denominator).isFinite = false) :
    nearest format negative numerator denominator = .infinite negative := by
  by_cases zero : numerator = 0
  · subst zero
    cases wide
  · rw [nearest_eq negative zero] at wide ⊢
    split at wide
    · cases wide
    · rename_i other
      exact dif_neg other

theorem convert_eq_infinite {x : Binary format} (finite : x.isFinite = true)
    (target : BinaryFormat) (wide : (x.convert target).isFinite = false) :
    x.convert target = .infinite x.isNegative := by
  obtain ⟨numerator, denominator, fraction, -, -⟩ := fraction?_eq_some finite
  rw [convert_eq_nearest target fraction] at wide ⊢
  exact nearest_eq_infinite x.isNegative wide

/-- A finite number times a fraction is finite exactly if the product is below the point half way
past the greatest number. -/
theorem isFinite_scale_iff {x : Binary format} (finite : x.isFinite = true)
    (sized : 0 < format.precision) {numerator denominator : Nat} (positive : 0 < denominator) :
    (x.scale numerator denominator).isFinite = true ↔
      x.magnitude * (numerator / denominator) < format.threshold := by
  obtain ⟨a, b, fraction, below, same⟩ := fraction?_eq_some finite
  have product : ((a * numerator : Nat) / (b * denominator : Nat) : ℚ) =
      x.magnitude * (numerator / denominator) := by
    rw [← same]
    push_cast
    exact mul_div_mul_comm _ _ _ _
  rw [scale, fraction]
  dsimp only
  rw [isFinite_nearest_iff format sized x.isNegative (Nat.mul_pos below positive), product]

theorem magnitude_rounded (sized : 0 < format.precision) (numerator denominator : Nat) :
    ((rounded format numerator denominator).1 * 2 ^ (rounded format numerator denominator).2 : ℚ) =
      roundedAt numerator denominator (lastPlace format numerator denominator) *
        2 ^ lastPlace format numerator denominator := by
  unfold rounded carried
  split
  · rename_i wide
    rw [wide, format.capacity_eq sized, Nat.mul_div_cancel_left _ Nat.two_pos,
      zpow_add_one₀ two_ne_zero]
    push_cast
    ring
  · rfl

theorem magnitude_nearest (sized : 0 < format.precision) (negative : Bool)
    (nonzero : numerator ≠ 0)
    (finite : (nearest format negative numerator denominator).isFinite = true) :
    (nearest format negative numerator denominator).magnitude =
      roundedAt numerator denominator (lastPlace format numerator denominator) *
        2 ^ lastPlace format numerator denominator := by
  rw [nearest_eq negative nonzero] at finite ⊢
  split
  · exact magnitude_rounded sized numerator denominator
  · rename_i wide
    rw [dif_neg wide] at finite
    cases finite

theorem lastPlace_le (sized : 0 < format.precision) {power : Int}
    (least : format.minExponent ≤ power) (small : floorLog2 numerator denominator ≤ power) :
    lastPlace format numerator denominator ≤ power := by
  unfold lastPlace
  dsimp only
  split <;> omega

theorem units_of_power {place power : Int} (inside : place ≤ power) :
    ∃ units : Nat, (units * 2 ^ place : ℚ) = 2 ^ power := by
  obtain ⟨steps, rfl⟩ := Int.le.dest inside
  refine ⟨2 ^ steps, ?_⟩
  rw [Nat.cast_pow, Nat.cast_two, ← zpow_natCast, ← zpow_add₀ two_ne_zero, add_comm]

/-- A fraction is not rounded past a power of two that the format has. -/
theorem magnitude_nearest_le (sized : 0 < format.precision) (negative : Bool)
    (positive : 0 < denominator) {power : Int} (least : format.minExponent ≤ power)
    (fits : (numerator / denominator : ℚ) ≤ 2 ^ power) :
    (nearest format negative numerator denominator).magnitude ≤ 2 ^ power := by
  by_cases finite : (nearest format negative numerator denominator).isFinite = true
  · by_cases zero : numerator = 0
    · subst zero
      rw [nearest, if_pos rfl, zero, magnitude, Nat.cast_zero, zero_mul]
      positivity
    · have reached := (floorLog2_spec (Nat.pos_of_ne_zero zero) positive).1.trans fits
      have small : floorLog2 numerator denominator ≤ power :=
        (zpow_le_zpow_iff_right₀ one_lt_two).mp reached
      obtain ⟨units, same⟩ := units_of_power (lastPlace_le sized least small)
      have kept : (roundedAt numerator denominator (lastPlace format numerator denominator) : ℚ) ≤
          units := by
        exact_mod_cast roundedAt_le positive (fits.trans_eq same.symm)
      rw [magnitude_nearest sized negative zero finite, ← same]
      exact mul_le_mul_of_nonneg_right kept (by positivity)
  · rw [nearest_eq_infinite negative (eq_false_of_ne_true finite)]
    exact zpow_nonneg zero_le_two power

theorem one_le_magnitude_nearest (sized : 0 < format.precision) (least : format.minExponent ≤ 0)
    (negative : Bool) (positive : 0 < denominator)
    (whole : (1 : ℚ) ≤ numerator / denominator)
    (finite : (nearest format negative numerator denominator).isFinite = true) :
    1 ≤ (nearest format negative numerator denominator).magnitude := by
  have nonzero : numerator ≠ 0 := by
    rintro rfl
    norm_num at whole
  obtain ⟨reached, above⟩ := floorLog2_spec (Nat.pos_of_ne_zero nonzero) positive
  have nonneg : 0 ≤ floorLog2 numerator denominator := by
    have less : (2 : ℚ) ^ (0 : Int) < 2 ^ (floorLog2 numerator denominator + 1) :=
      (zpow_zero (2 : ℚ) ▸ whole).trans_lt above
    exact Int.lt_add_one_iff.mp ((zpow_lt_zpow_iff_right₀ one_lt_two).mp less)
  obtain ⟨units, same⟩ := units_of_power (lastPlace_le sized (least.trans nonneg) le_rfl)
  have kept : (units : ℚ) ≤
      roundedAt numerator denominator (lastPlace format numerator denominator) := by
    exact_mod_cast le_roundedAt positive (same.trans_le reached)
  rw [magnitude_nearest sized negative nonzero finite]
  calc (1 : ℚ) ≤ 2 ^ floorLog2 numerator denominator := one_le_zpow₀ one_le_two nonneg
    _ = units * 2 ^ lastPlace format numerator denominator := same.symm
    _ ≤ _ := mul_le_mul_of_nonneg_right kept (by positivity)

end Binary

end PagedJoins
