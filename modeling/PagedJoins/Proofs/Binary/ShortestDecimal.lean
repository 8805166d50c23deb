import PagedJoins.Proofs.Binary.Numeral

/-!
# Where the shortest decimal lies

The decimal that a number is written with lies in the interval of the number, so it is rounded to
it. It is the point of its grid that is nearest to the number, if the interval reaches as far down
as up; and the grid is no finer than needed, which bounds the coefficient.
-/

namespace PagedJoins

/-- The rational that a decimal is. -/
def Decimal.value (decimal : Decimal) : ℚ :=
  decimal.coefficient * 10 ^ decimal.exponent

namespace Binary

/-! ## The point of a grid -/

namespace Interval

variable {interval : Interval} {ties : TieRule} {step unit point : Nat}

theorem contains_of_onGrid? (found : interval.onGrid? ties step unit = some point) :
    interval.contains (point * step) unit = true := by
  unfold onGrid? at found
  dsimp only at found
  generalize interval.value * unit / step = below at found
  split at found
  · cases found
  · rename_i inside _
    cases found
    exact inside
  · rename_i _ inside
    cases found
    exact inside
  · rename_i inside inside'
    split at found
    · cases found
      exact inside
    · split at found
      · cases found
        exact inside'
      · cases ties with
        | up =>
            cases found
            exact inside'
        | even =>
            cases found
            rcases Nat.mod_two_eq_zero_or_one below with even | odd
            · rw [even]
              exact inside
            · rw [odd]
              exact inside'

theorem contains_iff : interval.contains point unit = true ↔
    interval.low * unit ≤ point ∧ point ≤ interval.high * unit ∧
      (interval.closed = false → interval.low * unit < point ∧ point < interval.high * unit) := by
  rw [contains]
  cases interval.closed with
  | true => simp
  | false =>
      simp only [Bool.false_eq_true, if_false, Bool.and_eq_true, decide_eq_true_eq, true_implies]
      omega

/-- An interval that reaches as far up as down contains what lies between one of its points and the
mirror image of that. -/
theorem contains_of_nearer (symmetric : interval.high + interval.low = 2 * interval.value)
    {far : Nat} (inside : interval.contains far unit = true) (near : Nat)
    (low : near + far ≤ 2 * (interval.value * unit) → far ≤ near)
    (high : 2 * (interval.value * unit) ≤ near + far → near ≤ far) :
    interval.contains near unit = true := by
  have mirror : interval.high * unit + interval.low * unit = 2 * (interval.value * unit) := by
    rw [← Nat.add_mul, symmetric, Nat.mul_assoc]
  rw [contains_iff] at inside ⊢
  obtain ⟨least, greatest, ends⟩ := inside
  refine ⟨by omega, by omega, fun open_ => ?_⟩
  have strict := ends open_
  constructor <;> omega

/-- The point that is found on a grid is within half a step of the number, if the interval reaches
as far up as down. -/
theorem near_of_onGrid? (steps : 0 < step)
    (symmetric : interval.high + interval.low = 2 * interval.value)
    (found : interval.onGrid? ties step unit = some point) :
    2 * (point * step) ≤ 2 * (interval.value * unit) + step ∧
      2 * (interval.value * unit) ≤ 2 * (point * step) + step := by
  have notAbove : interval.value * unit / step * step ≤ interval.value * unit :=
    Nat.div_mul_le_self ..
  have near : interval.value * unit < interval.value * unit / step * step + step :=
    Nat.lt_div_mul_add steps
  unfold onGrid? at found
  dsimp only at found
  generalize interval.value * unit / step = below at found notAbove near
  have next : (below + 1) * step = below * step + step := Nat.succ_mul below step
  split at found
  · cases found
  · rename_i inside outside
    cases found
    by_contra far
    have other := contains_of_nearer symmetric inside ((point + 1) * step) (by omega) (by omega)
    rw [other] at outside
    cases outside
  · rename_i outside inside
    cases found
    by_contra far
    have other := contains_of_nearer symmetric inside (below * step) (by omega) (by omega)
    rw [other] at outside
    cases outside
  · split at found
    · cases found
      omega
    · split at found
      · cases found
        omega
      · cases ties with
        | up =>
            cases found
            omega
        | even =>
            cases found
            rcases Nat.mod_two_eq_zero_or_one below with even | odd
            · rw [even, Nat.add_zero]
              omega
            · rw [odd]
              omega

end Interval

/-! ## Grids of powers of ten -/

/-- The step of a grid and the unit of an interval, as whole numbers of a common part. -/
def gridStep (unitExponent power : Int) : Nat :=
  Nat.pow 10 power.toNat * Nat.pow 2 (-unitExponent).toNat

def gridUnit (unitExponent power : Int) : Nat :=
  Nat.pow 10 (-power).toNat * Nat.pow 2 unitExponent.toNat

theorem gridStep_pos (unitExponent power : Int) : 0 < gridStep unitExponent power :=
  Nat.mul_pos (Nat.pow_pos (by decide)) (Nat.pow_pos (by decide))

theorem gridUnit_pos (unitExponent power : Int) : 0 < gridUnit unitExponent power :=
  Nat.mul_pos (Nat.pow_pos (by decide)) (Nat.pow_pos (by decide))

theorem exists_common_part (unitExponent power : Int) :
    ∃ part : ℚ, 0 < part ∧ (gridStep unitExponent power : ℚ) = 10 ^ power * part ∧
      (gridUnit unitExponent power : ℚ) = 2 ^ unitExponent * part := by
  refine ⟨10 ^ (-power).toNat * 2 ^ (-unitExponent).toNat, by positivity, ?_, ?_⟩
  · rw [ten_zpow_eq, gridStep]
    simp only [Nat.pow_eq]
    push_cast
    field_simp
  · rw [two_zpow_eq, gridUnit]
    simp only [Nat.pow_eq]
    push_cast
    field_simp

section Search

variable {interval : Interval} {ties : TieRule} {unitExponent power : Int} {coefficient : Nat}

theorem units_le_steps_iff (m n : Nat) :
    m * gridUnit unitExponent power ≤ n * gridStep unitExponent power ↔
      (m * 2 ^ unitExponent : ℚ) ≤ n * 10 ^ power := by
  obtain ⟨part, positive, step, unit⟩ := exists_common_part unitExponent power
  qify
  rw [step, unit, ← mul_assoc, ← mul_assoc, mul_le_mul_iff_left₀ positive]

theorem steps_le_units_iff (m n : Nat) :
    n * gridStep unitExponent power ≤ m * gridUnit unitExponent power ↔
      (n * 10 ^ power : ℚ) ≤ m * 2 ^ unitExponent := by
  obtain ⟨part, positive, step, unit⟩ := exists_common_part unitExponent power
  qify
  rw [step, unit, ← mul_assoc, ← mul_assoc, mul_le_mul_iff_left₀ positive]

theorem holds_of_decimalOn?
    (found : decimalOn? interval ties unitExponent power = some coefficient) :
    interval.Holds unitExponent (coefficient * 10 ^ power) := by
  have inside : interval.contains (coefficient * gridStep unitExponent power)
      (gridUnit unitExponent power) = true :=
    Interval.contains_of_onGrid? found
  obtain ⟨low, high, ends⟩ := Interval.contains_iff.mp inside
  refine ⟨(units_le_steps_iff _ _).mp low, (steps_le_units_iff _ _).mp high, fun open_ => ?_⟩
  obtain ⟨above, below⟩ := ends open_
  rw [← not_le, ← not_le, ← steps_le_units_iff, ← units_le_steps_iff]
  exact ⟨not_le.mpr above, not_le.mpr below⟩

theorem near_of_decimalOn? (symmetric : interval.high + interval.low = 2 * interval.value)
    (found : decimalOn? interval ties unitExponent power = some coefficient) :
    |(coefficient * 10 ^ power : ℚ) - interval.value * 2 ^ unitExponent| ≤ 10 ^ power / 2 := by
  obtain ⟨part, positive, step, unit⟩ := exists_common_part unitExponent power
  have near : 2 * (coefficient * gridStep unitExponent power) ≤
        2 * (interval.value * gridUnit unitExponent power) + gridStep unitExponent power ∧
      2 * (interval.value * gridUnit unitExponent power) ≤
        2 * (coefficient * gridStep unitExponent power) + gridStep unitExponent power :=
    Interval.near_of_onGrid? (gridStep_pos _ _) symmetric found
  obtain ⟨above, below⟩ := near
  qify at above below
  rw [step, unit] at above below
  have above' : (coefficient * 10 ^ power - interval.value * 2 ^ unitExponent : ℚ) * part ≤
      10 ^ power / 2 * part := by
    linarith
  have below' : (interval.value * 2 ^ unitExponent - coefficient * 10 ^ power : ℚ) * part ≤
      10 ^ power / 2 * part := by
    linarith
  rw [mul_le_mul_iff_left₀ positive] at above' below'
  rw [abs_le]
  constructor <;> linarith

theorem coarse_of_decimalOn? (below : interval.low < interval.value)
    (above : interval.value < interval.high)
    (missed : decimalOn? interval ties unitExponent power = none) :
    (2 : ℚ) ^ unitExponent ≤ 10 ^ power := by
  by_contra fine
  have finer : 1 * gridStep unitExponent power ≤ 1 * gridUnit unitExponent power := by
    rw [steps_le_units_iff]
    push_cast
    linarith
  have found : (interval.onGrid? ties (gridStep unitExponent power)
      (gridUnit unitExponent power)).isSome = true := by
    apply Interval.onGrid?_isSome below above (gridUnit_pos _ _) (gridStep_pos _ _)
    rw [Nat.one_mul, Nat.one_mul] at finer
    exact Nat.le_trans finer (Nat.le_mul_of_pos_left _ (Nat.sub_pos_of_lt below))
  rw [show interval.onGrid? ties (gridStep unitExponent power) (gridUnit unitExponent power) =
    none from missed] at found
  cases found

/-! ## The search -/

/-- The search ends on a grid with a point, and that is the first one or the one before has
none. -/
theorem firstDecimal_found {tries : Nat}
    (finest : (decimalOn? interval ties unitExponent (power - tries)).isSome = true) :
    ∃ coefficient grid, firstDecimal interval ties unitExponent tries power = ⟨coefficient, grid⟩ ∧
      decimalOn? interval ties unitExponent grid = some coefficient ∧
      (grid = power ∨ decimalOn? interval ties unitExponent (grid + 1) = none) := by
  induction tries generalizing power with
  | zero =>
      rw [Int.natCast_zero, Int.sub_zero] at finest
      obtain ⟨point, found⟩ := Option.isSome_iff_exists.mp finest
      exact ⟨point, power, by rw [firstDecimal, found, Option.getD_some], found, .inl rfl⟩
  | succ tries ih =>
      rw [firstDecimal]
      cases found : decimalOn? interval ties unitExponent power with
      | some point => exact ⟨point, power, rfl, found, .inl rfl⟩
      | none =>
          have same : power - 1 - tries = power - (tries + 1 : Nat) := by omega
          obtain ⟨coefficient, grid, result, point, first⟩ := ih (by rw [same]; exact finest)
          refine ⟨coefficient, grid, result, point, .inr ?_⟩
          rcases first with rfl | before
          · rw [Int.sub_add_cancel]
            exact found
          · exact before

end Search

/-- The first grid of the search is coarser than the interval. -/
theorem coarsest_grid {exponent : Int} {log : Nat} (narrow : log < 53) (least : -1074 ≤ exponent)
    (greatest : exponent ≤ 971) :
    (2 : ℚ) ^ (exponent - 2) ≤ 10 ^ ((exponent + log + 1) * 30103 / 100000 + 1 + 1) := by
  generalize first : (exponent + log + 1) * 30103 / 100000 + 1 + 1 = power
  have coarse : 1 * gridUnit (exponent - 2) power ≤ 1 * gridStep (exponent - 2) power := by
    rw [Nat.one_mul, Nat.one_mul, gridUnit, gridStep]
    by_cases whole : 2 ≤ exponent
    · have noHalves : (-(exponent - 2)).toNat = 0 := by omega
      have noTenth : (-power).toNat = 0 := by omega
      have fits : Nat.pow 2 (exponent - 2).toNat ≤ Nat.pow 10 power.toNat :=
        two_pow_le_ten_pow (by omega)
      rw [noHalves, noTenth]
      exact (Nat.one_mul _).trans_le (fits.trans_eq (Nat.mul_one _).symm)
    · have noDouble : (exponent - 2).toNat = 0 := by omega
      have fits : Nat.pow 10 (-power).toNat ≤ Nat.pow 2 (-(exponent - 2)).toNat :=
        ten_pow_le_two_pow (by omega)
      rw [noDouble]
      exact (Nat.mul_one _).trans_le
        (fits.trans (Nat.le_mul_of_pos_left _ (Nat.pow_pos (by decide))))
  rw [units_le_steps_iff] at coarse
  push_cast at coarse
  linarith

/-! ## The shortest decimal -/

/-- A decimal that a number may be written with: it lies in the interval of the number, within half
a step of it if the interval reaches as far down as up, and it has no more digits than needed. -/
structure Writes (format : BinaryFormat) (significand : Nat) (exponent : Int)
    (decimal : Decimal) : Prop where
  inside : (interval format significand exponent).Holds (exponent - 2) decimal.value
  near : ¬ (2 * significand = format.capacity ∧ format.minExponent < exponent) →
    |decimal.value - significand * 2 ^ exponent| ≤ 10 ^ decimal.exponent / 2
  coarse : (2 : ℚ) ^ (exponent - 2) ≤ 10 ^ (decimal.exponent + 1)

namespace Writes

variable {format : BinaryFormat} {significand : Nat} {exponent : Int} {decimal : Decimal}

/-- A number is written with a decimal within half a unit of it. -/
theorem value_bounds (writes : Writes format significand exponent decimal)
    (nonzero : significand ≠ 0) :
    ((significand - 1 / 2) * 2 ^ exponent : ℚ) ≤ decimal.value ∧
      decimal.value ≤ (significand + 1 / 2) * 2 ^ exponent := by
  obtain ⟨high, low⟩ := interval_ends format nonzero exponent
  obtain ⟨above, below, -⟩ := writes.inside
  have unit : (0 : ℚ) < 2 ^ exponent := by positivity
  rw [high] at below
  rw [low] at above
  refine ⟨le_trans ?_ above, below⟩
  split <;> linarith

theorem value_pos (writes : Writes format significand exponent decimal)
    (nonzero : significand ≠ 0) : 0 < decimal.value := by
  have some : (1 : ℚ) ≤ significand := by exact_mod_cast Nat.one_le_iff_ne_zero.mpr nonzero
  refine lt_of_lt_of_le (mul_pos ?_ ?_) (writes.value_bounds nonzero).1
  · linarith
  · positivity

theorem coefficient_ne_zero (writes : Writes format significand exponent decimal)
    (nonzero : significand ≠ 0) : decimal.coefficient ≠ 0 := by
  intro none
  have positive := writes.value_pos nonzero
  rw [Decimal.value, none, Nat.cast_zero, zero_mul] at positive
  exact lt_irrefl _ positive

theorem coefficient_le (writes : Writes format significand exponent decimal)
    (nonzero : significand ≠ 0) : decimal.coefficient ≤ 40 * significand + 20 := by
  have scale : (0 : ℚ) < 10 ^ decimal.exponent := by positivity
  have bound : (decimal.coefficient * 10 ^ decimal.exponent : ℚ) ≤
      (40 * significand + 20) * 10 ^ decimal.exponent := by
    calc (decimal.coefficient * 10 ^ decimal.exponent : ℚ)
        ≤ (significand + 1 / 2) * (4 * 2 ^ (exponent - 2)) := by
          rw [← quarter_eq]
          exact (writes.value_bounds nonzero).2
      _ ≤ (significand + 1 / 2) * (4 * 10 ^ (decimal.exponent + 1)) := by
          gcongr
          exact writes.coarse
      _ = (40 * significand + 20) * 10 ^ decimal.exponent := by
          rw [zpow_add_one₀ (by norm_num)]
          ring
  have coefficients := le_of_mul_le_mul_right bound scale
  exact_mod_cast coefficients

theorem le_exponent (writes : Writes format significand exponent decimal) {p q : Nat}
    (least : -(q : Int) ≤ exponent - 2) (fits : 28 * q ≤ 93 * p) :
    -(p + 1 : Int) ≤ decimal.exponent := by
  have powers : (10 : ℚ) ^ (-(p : Int)) ≤ 10 ^ (decimal.exponent + 1) := by
    calc (10 : ℚ) ^ (-(p : Int)) ≤ 2 ^ (-(q : Int)) := by
          rw [zpow_neg, zpow_neg, zpow_natCast, zpow_natCast]
          exact inv_anti₀ (by positivity) (two_pow_le_ten_pow_cast fits)
      _ ≤ 2 ^ (exponent - 2) := zpow_le_zpow_right₀ one_le_two least
      _ ≤ 10 ^ (decimal.exponent + 1) := writes.coarse
  have exponents := (zpow_le_zpow_iff_right₀ (by norm_num)).mp powers
  omega

end Writes

/-- The shortest decimal of a number within the range of 64 bits. -/
theorem writes_shortest {format : BinaryFormat} {significand : Nat} {exponent : Int}
    (nonzero : significand ≠ 0) (narrow : significand < Nat.pow 2 53) (least : -1074 ≤ exponent)
    (greatest : exponent ≤ 971) (ties : TieRule) :
    Writes format significand exponent (shortest format ties significand exponent) := by
  have ends : (interval format significand exponent).low <
        (interval format significand exponent).value ∧
      (interval format significand exponent).value <
        (interval format significand exponent).high := by
    rw [interval]
    dsimp only
    constructor
    · split <;> omega
    · omega
  have logNarrow : significand.log2 < 53 := (Nat.log2_lt nonzero).mpr narrow
  have finest : ((interval format significand exponent).onGrid? ties
      (gridStep (exponent - 2) ((exponent + significand.log2 + 1) * 30103 / 100000 + 1 - 20))
      (gridUnit (exponent - 2)
        ((exponent + significand.log2 + 1) * 30103 / 100000 + 1 - 20))).isSome = true := by
    apply Interval.onGrid?_isSome ends.1 ends.2 (gridUnit_pos _ _) (gridStep_pos _ _)
    exact Nat.le_trans (finest_grid logNarrow least greatest rfl)
      (Nat.le_mul_of_pos_left _ (Nat.sub_pos_of_lt ends.1))
  obtain ⟨coefficient, grid, result, found, first⟩ := firstDecimal_found finest
  have same : shortest format ties significand exponent = ⟨coefficient, grid⟩ := result
  rw [same]
  refine ⟨holds_of_decimalOn? found, fun regular => ?_, ?_⟩
  · have symmetric : (interval format significand exponent).high +
        (interval format significand exponent).low =
          2 * (interval format significand exponent).value := by
      rw [interval]
      dsimp only
      rw [if_neg regular]
      omega
    have near := near_of_decimalOn? symmetric found
    have value : ((interval format significand exponent).value * 2 ^ (exponent - 2) : ℚ) =
        significand * 2 ^ exponent := by
      rw [interval, quarter_eq exponent]
      push_cast
      ring
    rw [value] at near
    exact near
  · rcases first with rfl | missed
    · exact coarsest_grid logNarrow least greatest
    · exact coarse_of_decimalOn? ends.1 ends.2 missed

end Binary

end PagedJoins
