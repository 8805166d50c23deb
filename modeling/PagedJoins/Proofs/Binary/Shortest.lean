import PagedJoins.Binary.Shortest

/-!
# The shortest decimal is found

The search for the shortest decimal goes down to a grid whose step is no more than the
distance from a number to the nearer end of its interval, so a point of some grid lies in
the interval. Since the interval has no zero, that point is not zero either.
-/

namespace PagedJoins.Binary

/-! ## Points of a grid -/

namespace Interval

variable {interval : Interval} {ties : TieRule} {step unit : Nat}

theorem ne_zero_of_contains (positive : 0 < interval.low) (units : 0 < unit) {point : Nat}
    (inside : interval.contains (point * step) unit = true) : point ≠ 0 := by
  rintro rfl
  have bound : 0 < interval.low * unit := Nat.mul_pos positive units
  rw [Nat.zero_mul, contains] at inside
  cases closed : interval.closed with
  | true =>
      rw [closed, if_pos rfl, Bool.and_eq_true, decide_eq_true_eq] at inside
      exact absurd inside.1 (Nat.not_le_of_lt bound)
  | false =>
      rw [closed, if_neg Bool.false_ne_true, Bool.and_eq_true, decide_eq_true_eq] at inside
      exact absurd inside.1 (Nat.not_lt_zero _)

theorem onGrid?_ne_zero (positive : 0 < interval.low) (units : 0 < unit) {point : Nat}
    (found : interval.onGrid? ties step unit = some point) : point ≠ 0 := by
  unfold onGrid? at found
  dsimp only at found
  generalize interval.value * unit / step = below at found
  split at found
  · cases found
  · rename_i inside _
    cases found
    exact ne_zero_of_contains positive units inside
  · cases found
    exact Nat.succ_ne_zero below
  · rename_i inside _
    have nonzero : below ≠ 0 := ne_zero_of_contains positive units inside
    split at found
    · cases found
      exact nonzero
    · split at found
      · cases found
        exact Nat.succ_ne_zero below
      · cases ties with
        | up =>
            cases found
            exact Nat.succ_ne_zero below
        | even =>
            cases found
            exact fun none => nonzero (Nat.eq_zero_of_add_eq_zero_right none)

/-- A grid whose step is no more than the lower half of the interval has a point in it. -/
theorem onGrid?_isSome (below : interval.low < interval.value)
    (above : interval.value < interval.high) (units : 0 < unit) (steps : 0 < step)
    (fine : step ≤ (interval.value - interval.low) * unit) :
    (interval.onGrid? ties step unit).isSome = true := by
  have inside : interval.contains (interval.value * unit / step * step) unit = true := by
    have notAbove : interval.value * unit / step * step ≤ interval.value * unit :=
      Nat.div_mul_le_self ..
    have near : interval.value * unit < interval.value * unit / step * step + step :=
      Nat.lt_div_mul_add steps
    have parts : interval.low * unit + (interval.value - interval.low) * unit =
        interval.value * unit := by
      rw [← Nat.add_mul, Nat.add_sub_cancel' (Nat.le_of_lt below)]
    have pastLow : interval.low * unit < interval.value * unit / step * step := by omega
    have belowHigh : interval.value * unit / step * step < interval.high * unit :=
      Nat.lt_of_le_of_lt notAbove (Nat.mul_lt_mul_of_pos_right above units)
    rw [contains]
    simp [pastLow, belowHigh, Nat.le_of_lt pastLow, Nat.le_of_lt belowHigh]
  unfold onGrid?
  dsimp only
  rw [inside]
  split
  · contradiction
  · rfl
  · rfl
  · split
    · rfl
    · split
      · rfl
      · cases ties with
        | up => rfl
        | even => rfl

end Interval

/-! ## Powers of ten and of two -/

theorem ten_pow_le_two_pow {p q : Nat} (fits : 10 * p ≤ 3 * q) :
    Nat.pow 10 p ≤ Nat.pow 2 q := by
  have cubes : (10 ^ p) ^ 3 ≤ (2 ^ q) ^ 3 := by
    calc
      (10 ^ p) ^ 3 = (10 ^ 3) ^ p := Nat.pow_right_comm ..
      _ ≤ (2 ^ 10) ^ p := Nat.pow_le_pow_left (by decide) p
      _ = 2 ^ (10 * p) := (Nat.pow_mul ..).symm
      _ ≤ 2 ^ (3 * q) := Nat.pow_le_pow_right (by decide) fits
      _ = (2 ^ q) ^ 3 := by rw [Nat.mul_comm, Nat.pow_mul]
  exact (Nat.pow_le_pow_iff_left (by decide)).mp cubes

theorem two_pow_le_ten_pow {p q : Nat} (fits : 28 * q ≤ 93 * p) :
    Nat.pow 2 q ≤ Nat.pow 10 p := by
  have powers : (2 ^ q) ^ 93 ≤ (10 ^ p) ^ 93 := by
    calc
      (2 ^ q) ^ 93 = (2 ^ 93) ^ q := Nat.pow_right_comm ..
      _ ≤ (10 ^ 28) ^ q := Nat.pow_le_pow_left (by decide) q
      _ = 10 ^ (28 * q) := (Nat.pow_mul ..).symm
      _ ≤ 10 ^ (93 * p) := Nat.pow_le_pow_right (by decide) fits
      _ = (10 ^ p) ^ 93 := by rw [Nat.mul_comm, Nat.pow_mul]
  exact (Nat.pow_le_pow_iff_left (by decide)).mp powers

/-! ## The search -/

/-- The search ends on a grid where there is a point, if the finest one has a point. -/
theorem firstDecimal_coefficient_ne_zero {interval : Interval} {ties : TieRule}
    {unitExponent : Int} (positive : 0 < interval.low) {tries : Nat} {power : Int}
    (finest : (decimalOn? interval ties unitExponent (power - tries)).isSome = true) :
    (firstDecimal interval ties unitExponent tries power).coefficient ≠ 0 := by
  have nonzero : ∀ grid point, decimalOn? interval ties unitExponent grid = some point →
      point ≠ 0 := by
    intro grid point found
    exact Interval.onGrid?_ne_zero positive
      (Nat.mul_pos (Nat.pow_pos (by decide)) (Nat.pow_pos (by decide))) found
  induction tries generalizing power with
  | zero =>
      rw [Int.natCast_zero, Int.sub_zero] at finest
      obtain ⟨point, found⟩ := Option.isSome_iff_exists.mp finest
      rw [firstDecimal, found]
      exact nonzero power point found
  | succ tries ih =>
      rw [firstDecimal]
      cases found : decimalOn? interval ties unitExponent power with
      | some point => exact nonzero power point found
      | none =>
          have same : power - 1 - tries = power - (tries + 1 : Nat) := by omega
          exact ih (by rw [same]; exact finest)

/-- The finest grid of the search is fine enough for every number of 53 bits in the range of
exponents of the 64-bit format. -/
theorem finest_grid {exponent : Int} {log : Nat} (narrow : log < 53) (least : -1074 ≤ exponent)
    (greatest : exponent ≤ 971) {power : Int}
    (last : power = (exponent + log + 1) * 30103 / 100000 + 1 - 20) :
    Nat.pow 10 power.toNat * Nat.pow 2 (-(exponent - 2)).toNat ≤
      Nat.pow 10 (-power).toNat * Nat.pow 2 (exponent - 2).toNat := by
  by_cases whole : 2 ≤ exponent
  · have noHalves : (-(exponent - 2)).toNat = 0 := by omega
    have fits : Nat.pow 10 power.toNat ≤ Nat.pow 2 (exponent - 2).toNat :=
      ten_pow_le_two_pow (by omega)
    calc
      Nat.pow 10 power.toNat * Nat.pow 2 (-(exponent - 2)).toNat = Nat.pow 10 power.toNat := by
        rw [noHalves]
        exact Nat.mul_one _
      _ ≤ Nat.pow 2 (exponent - 2).toNat := fits
      _ ≤ Nat.pow 10 (-power).toNat * Nat.pow 2 (exponent - 2).toNat :=
        Nat.le_mul_of_pos_left _ (Nat.pow_pos (by decide))
  · have noDouble : (exponent - 2).toNat = 0 := by omega
    have noTen : power.toNat = 0 := by omega
    have fits : Nat.pow 2 (-(exponent - 2)).toNat ≤ Nat.pow 10 (-power).toNat :=
      two_pow_le_ten_pow (by omega)
    calc
      Nat.pow 10 power.toNat * Nat.pow 2 (-(exponent - 2)).toNat =
          Nat.pow 2 (-(exponent - 2)).toNat := by
        rw [noTen]
        exact Nat.one_mul _
      _ ≤ Nat.pow 10 (-power).toNat := fits
      _ = Nat.pow 10 (-power).toNat * Nat.pow 2 (exponent - 2).toNat := by
        rw [noDouble]
        exact (Nat.mul_one _).symm

/-- The shortest decimal of a number that is not zero is not zero either. -/
theorem shortest_coefficient_ne_zero {format : BinaryFormat} {ties : TieRule}
    {significand : Nat} {exponent : Int} (nonzero : significand ≠ 0)
    (narrow : significand < Nat.pow 2 53) (least : -1074 ≤ exponent)
    (greatest : exponent ≤ 971) :
    (shortest format ties significand exponent).coefficient ≠ 0 := by
  have low : 0 < (interval format significand exponent).low ∧
      (interval format significand exponent).low < 4 * significand := by
    rw [interval]
    dsimp only
    split <;> omega
  have logNarrow : significand.log2 < 53 := (Nat.log2_lt nonzero).mpr narrow
  have units : ∀ grid : Int, 0 < Nat.pow 10 (-grid).toNat * Nat.pow 2 (exponent - 2).toNat :=
    fun grid => Nat.mul_pos (Nat.pow_pos (by decide)) (Nat.pow_pos (by decide))
  apply firstDecimal_coefficient_ne_zero low.1
  apply Interval.onGrid?_isSome low.2 (Nat.lt_add_of_pos_right (by decide)) (units _)
    (Nat.mul_pos (Nat.pow_pos (by decide)) (Nat.pow_pos (by decide)))
  have fine := finest_grid logNarrow least greatest rfl
  exact Nat.le_trans fine (Nat.le_mul_of_pos_left _ (Nat.sub_pos_of_lt low.2))

end PagedJoins.Binary
