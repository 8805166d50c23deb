import PagedJoins.Binary.Shortest
import PagedJoins.Proofs.Binary.Order

/-!
# The numbers that round to a number

The interval of a number of a format holds what is rounded to it and nothing that is rounded to
another number: in units of the number's last place it reaches half a unit up and down, but below a
power of two only half of that, since there the last place is the next one. So a number of the
format is rounded to itself, and no fraction is moved by more than half a unit of its last place.
-/

namespace PagedJoins.Binary

variable {format : BinaryFormat} {numerator denominator significand : Nat} {exponent : Int}

/-! ## In units of one place -/

theorem roundedAt_bounds (numerator : Nat) (positive : 0 < denominator) (exponent : Int) :
    ((roundedAt numerator denominator exponent - 1 / 2) * 2 ^ exponent : ℚ) ≤
        numerator / denominator ∧
      (numerator / denominator : ℚ) ≤
        (roundedAt numerator denominator exponent + 1 / 2) * 2 ^ exponent := by
  generalize same : roundedAt numerator denominator exponent = m
  have reached : m ≤ roundedAt numerator denominator exponent := same.ge
  have missed : ¬ m + 1 ≤ roundedAt numerator denominator exponent := by omega
  have middle : ((m + 1 : Nat) - 1 / 2 : ℚ) = m + 1 / 2 := by
    push_cast
    ring
  rcases Nat.mod_two_eq_zero_or_one m with even | odd
  · have past := mt (le_roundedAt_iff_of_odd positive (m := m + 1) (by omega) exponent).mpr missed
    rw [middle, not_lt] at past
    exact ⟨(le_roundedAt_iff_of_even positive even exponent).mp reached, past⟩
  · have past := mt (le_roundedAt_iff_of_even positive (m := m + 1) (by omega) exponent).mpr missed
    rw [middle, not_le] at past
    exact ⟨((le_roundedAt_iff_of_odd positive odd exponent).mp reached).le, past.le⟩

/-- What is within half a unit of a whole number is rounded to it; just half a unit only if the
number is even. -/
theorem roundedAt_eq_of_within (positive : 0 < denominator) {m : Nat} {exponent : Int}
    (low : ((m - 1 / 2) * 2 ^ exponent : ℚ) ≤ numerator / denominator)
    (high : (numerator / denominator : ℚ) ≤ (m + 1 / 2) * 2 ^ exponent)
    (ends : m % 2 = 1 → ((m - 1 / 2) * 2 ^ exponent : ℚ) < numerator / denominator ∧
      (numerator / denominator : ℚ) < (m + 1 / 2) * 2 ^ exponent) :
    roundedAt numerator denominator exponent = m := by
  have middle : ((m + 1 : Nat) - 1 / 2 : ℚ) = m + 1 / 2 := by
    push_cast
    ring
  have reached : m ≤ roundedAt numerator denominator exponent := by
    rcases Nat.mod_two_eq_zero_or_one m with even | odd
    · exact (le_roundedAt_iff_of_even positive even exponent).mpr low
    · exact (le_roundedAt_iff_of_odd positive odd exponent).mpr (ends odd).1
  have missed : ¬ m + 1 ≤ roundedAt numerator denominator exponent := by
    rcases Nat.mod_two_eq_zero_or_one m with even | odd
    · rw [le_roundedAt_iff_of_odd positive (by omega), middle]
      exact not_lt.mpr high
    · rw [le_roundedAt_iff_of_even positive (by omega), middle]
      exact not_le.mpr (ends odd).2
  omega

/-! ## The last place -/

theorem place_le (sized : 0 < format.precision) {q : ℚ} {place place' : Int}
    (within : q < format.capacity * 2 ^ place)
    (fills : ((2 ^ (format.precision - 1) : Nat) : ℚ) * 2 ^ place' ≤ q) : place' ≤ place := by
  have half : (0 : ℚ) < (2 ^ (format.precision - 1) : Nat) := by
    exact_mod_cast Nat.two_pow_pos _
  have doubled : (format.capacity : ℚ) * 2 ^ place =
      (2 ^ (format.precision - 1) : Nat) * 2 ^ (place + 1) := by
    rw [format.capacity_eq sized, zpow_add_one₀ two_ne_zero]
    push_cast
    ring
  have powers : (2 : ℚ) ^ place' < 2 ^ (place + 1) :=
    lt_of_mul_lt_mul_left ((fills.trans_lt within).trans_eq doubled) half.le
  exact Int.lt_add_one_iff.mp ((zpow_lt_zpow_iff_right₀ one_lt_two).mp powers)

/-- The last place of a fraction is the one at which it fits the width and fills it. -/
theorem lastPlace_eq (sized : 0 < format.precision) (above : 0 < numerator)
    (positive : 0 < denominator) {place : Int} (least : format.minExponent ≤ place)
    (within : (numerator / denominator : ℚ) < format.capacity * 2 ^ place)
    (fills : place = format.minExponent ∨
      ((2 ^ (format.precision - 1) : Nat) : ℚ) * 2 ^ place ≤ numerator / denominator) :
    lastPlace format numerator denominator = place := by
  obtain ⟨least', within', fills'⟩ := lastPlace_spec format sized above positive
  apply le_antisymm
  · rcases fills' with same | fills'
    · exact same.trans_le least
    · exact place_le sized within fills'
  · rcases fills with same | fills
    · exact same.trans_le least'
    · exact place_le sized within' fills

theorem lastPlace_le_of_lt (sized : 0 < format.precision) (above : 0 < numerator)
    (positive : 0 < denominator) {place : Int} (least : format.minExponent ≤ place)
    (within : (numerator / denominator : ℚ) < format.capacity * 2 ^ place) :
    lastPlace format numerator denominator ≤ place := by
  obtain ⟨-, -, same | fills⟩ := lastPlace_spec format sized above positive
  · exact same.trans_le least
  · exact place_le sized within fills

theorem magnitude_nearest_of_units (sized : 0 < format.precision) (negative : Bool)
    (positive : 0 < denominator)
    (finite : (nearest format negative numerator denominator).isFinite = true)
    (units : Nat) (place : Int) (least : format.minExponent ≤ place)
    (within : (numerator / denominator : ℚ) < format.capacity * 2 ^ place)
    (same : (numerator / denominator : ℚ) = units * 2 ^ place) :
    (nearest format negative numerator denominator).magnitude = numerator / denominator := by
  by_cases zero : numerator = 0
  · subst zero
    rw [nearest, if_pos rfl, Binary.zero, magnitude, Nat.cast_zero, zero_mul, zero_div]
  · have inside := lastPlace_le_of_lt sized (Nat.pos_of_ne_zero zero) positive least within
    obtain ⟨steps, power⟩ := units_of_power inside
    rw [← power, ← mul_assoc, ← Nat.cast_mul] at same
    have unit : (0 : ℚ) < 2 ^ lastPlace format numerator denominator := by positivity
    have counted : roundedAt numerator denominator (lastPlace format numerator denominator) =
        units * steps := by
      refine roundedAt_eq_of_within positive ?_ ?_ fun _ => ⟨?_, ?_⟩ <;> rw [same] <;> linarith
    rw [magnitude_nearest sized negative zero finite, counted, same]

/-- A fraction is moved by half a unit of its last place at most. -/
theorem abs_magnitude_nearest_sub_le (sized : 0 < format.precision) (negative : Bool)
    (positive : 0 < denominator)
    (finite : (nearest format negative numerator denominator).isFinite = true) :
    |(nearest format negative numerator denominator).magnitude - numerator / denominator| ≤
      2 ^ lastPlace format numerator denominator / 2 := by
  by_cases zero : numerator = 0
  · subst zero
    rw [nearest, if_pos rfl, Binary.zero, magnitude, Nat.cast_zero, zero_mul, zero_div, sub_zero,
      abs_zero]
    positivity
  · obtain ⟨low, high⟩ := roundedAt_bounds numerator positive
      (lastPlace format numerator denominator)
    rw [magnitude_nearest sized negative zero finite, abs_le]
    constructor <;> linarith

/-- A fraction is moved by a part of itself at most, which is as small as half a significand's unit;
or by half of the least positive number. -/
theorem abs_magnitude_nearest_sub_le_max (sized : 0 < format.precision) (negative : Bool)
    (positive : 0 < denominator)
    (finite : (nearest format negative numerator denominator).isFinite = true) :
    |(nearest format negative numerator denominator).magnitude - numerator / denominator| ≤
      max ((numerator / denominator : ℚ) / 2 ^ format.precision)
        ((2 : ℚ) ^ format.minExponent / 2) := by
  by_cases zero : numerator = 0
  · subst zero
    rw [nearest, if_pos rfl, Binary.zero, magnitude, Nat.cast_zero, zero_mul, zero_div, sub_zero,
      abs_zero]
    exact le_max_of_le_right (by positivity)
  · refine (abs_magnitude_nearest_sub_le sized negative positive finite).trans ?_
    obtain ⟨-, -, least | fills⟩ :=
      lastPlace_spec format sized (Nat.pos_of_ne_zero zero) positive
    · rw [least]
      exact le_max_right _ _
    · apply le_max_of_le_left
      have width : (2 : ℚ) ^ format.precision = 2 * (2 ^ (format.precision - 1) : Nat) := by
        rw [Nat.cast_pow, Nat.cast_two, ← pow_succ', Nat.sub_add_cancel sized]
      rw [width, le_div_iff₀ (by positivity)]
      linarith

theorem isNegative_nearest (negative : Bool) :
    (nearest format negative numerator denominator).isNegative = negative := by
  by_cases zero : numerator = 0
  · rw [nearest, if_pos zero]
    rfl
  · rw [nearest_eq negative zero]
    split <;> rfl

/-! ## The interval of a number -/

/-- Does a rational lie in the interval? The interval is in units of `2 ^ unitExponent`. -/
def Interval.Holds (interval : Interval) (unitExponent : Int) (q : ℚ) : Prop :=
  (interval.low * 2 ^ unitExponent : ℚ) ≤ q ∧ q ≤ (interval.high * 2 ^ unitExponent : ℚ) ∧
    (interval.closed = false → (interval.low * 2 ^ unitExponent : ℚ) < q ∧
      q < (interval.high * 2 ^ unitExponent : ℚ))

theorem quarter_eq (exponent : Int) : (2 : ℚ) ^ exponent = 4 * 2 ^ (exponent - 2) := by
  rw [zpow_sub₀ two_ne_zero]
  norm_num
  ring

/-- The interval of a number reaches half a unit up, and half a unit down unless the number is a
power of two. -/
theorem interval_ends (format : BinaryFormat) (nonzero : significand ≠ 0) (exponent : Int) :
    ((interval format significand exponent).high * 2 ^ (exponent - 2) : ℚ) =
        (significand + 1 / 2) * 2 ^ exponent ∧
      ((interval format significand exponent).low * 2 ^ (exponent - 2) : ℚ) =
        (significand - if 2 * significand = format.capacity ∧ format.minExponent < exponent then
          1 / 4 else 1 / 2) * 2 ^ exponent := by
  rw [interval, quarter_eq exponent]
  dsimp only
  constructor
  · push_cast
    ring
  · split
    · rw [Nat.cast_sub (by omega)]
      push_cast
      ring
    · rw [Nat.cast_sub (by omega)]
      push_cast
      ring

theorem closed_eq_false_iff :
    (interval format significand exponent).closed = false ↔ significand % 2 = 1 := by
  simp [interval]

theorem nearest_of_rounded (negative : Bool) (nonzero : numerator ≠ 0)
    (canonical : format.Canonical significand exponent)
    (same : rounded format numerator denominator = (significand, exponent)) :
    nearest format negative numerator denominator =
      .finite negative significand exponent canonical := by
  obtain ⟨first, second⟩ := Prod.ext_iff.mp same
  dsimp only at first second
  subst first second
  rw [nearest_eq negative nonzero, dif_pos canonical]

/-- A fraction just below a power of two is counted in units of the place below, and is rounded up
to the power from half of such a unit on. -/
theorem rounded_below_power (sized : 0 < format.precision) (above : 0 < numerator)
    (positive : 0 < denominator) (full : 2 * significand = format.capacity)
    (least : format.minExponent < exponent)
    (reached : ((significand - 1 / 4) * 2 ^ exponent : ℚ) ≤ numerator / denominator)
    (below : (numerator / denominator : ℚ) < significand * 2 ^ exponent) :
    rounded format numerator denominator = (significand, exponent) := by
  have capacity := format.capacity_eq sized
  have even : format.capacity % 2 = 0 := by rw [capacity, Nat.mul_mod_right]
  have width : (format.capacity : ℚ) = 2 * significand := by exact_mod_cast full.symm
  have half : ((2 ^ (format.precision - 1) : Nat) : ℚ) = significand := by
    exact_mod_cast (show 2 ^ (format.precision - 1) = significand by omega)
  have step : (2 : ℚ) ^ exponent = 2 * 2 ^ (exponent - 1) := by
    rw [zpow_sub_one₀ two_ne_zero]
    ring
  have some : (1 : ℚ) ≤ significand := by
    exact_mod_cast (show 1 ≤ significand by have := format.capacity_pos; omega)
  have unit : (0 : ℚ) < 2 ^ (exponent - 1) := by positivity
  rw [step] at reached below
  have place : lastPlace format numerator denominator = exponent - 1 := by
    refine lastPlace_eq sized above positive (by omega) ?_ (.inr ?_)
    · rw [width]
      linarith
    · rw [half]
      nlinarith
  have counted : roundedAt numerator denominator (exponent - 1) = format.capacity := by
    apply le_antisymm
    · exact place ▸ (roundedAt_lastPlace format sized above positive).1
    · rw [le_roundedAt_iff_of_even positive even, width]
      linarith
  rw [rounded, place, counted, carried, if_pos rfl, Int.sub_add_cancel]
  exact Prod.ext (by dsimp only; omega) rfl

/-- What lies in the interval of a number is rounded to it. -/
theorem nearest_of_holds (sized : 0 < format.precision) (nonzero : significand ≠ 0)
    (canonical : format.Canonical significand exponent) (negative : Bool)
    (positive : 0 < denominator)
    (holds : (interval format significand exponent).Holds (exponent - 2)
      (numerator / denominator)) :
    nearest format negative numerator denominator =
      .finite negative significand exponent canonical := by
  have ⟨narrow, least, _, full⟩ := canonical
  obtain ⟨high, low⟩ := interval_ends format nonzero exponent
  have unit : (0 : ℚ) < 2 ^ exponent := by positivity
  have some : (1 : ℚ) ≤ significand := by exact_mod_cast Nat.one_le_iff_ne_zero.mpr nonzero
  have capacity := format.capacity_eq sized
  obtain ⟨reached, below, ends⟩ := holds
  rw [high] at below
  rw [low] at reached
  rw [high, low, closed_eq_false_iff] at ends
  have above : 0 < numerator := by
    have start : (0 : ℚ) < numerator / denominator := by
      refine lt_of_lt_of_le (mul_pos ?_ unit) reached
      split <;> linarith
    rcases Nat.eq_zero_or_pos numerator with rfl | above
    · rw [Nat.cast_zero, zero_div] at start
      exact absurd start (lt_irrefl _)
    · exact above
  have within : (numerator / denominator : ℚ) < format.capacity * 2 ^ exponent := by
    have room : (significand : ℚ) + 1 ≤ format.capacity := by exact_mod_cast narrow
    nlinarith
  apply nearest_of_rounded negative above.ne'
  by_cases power : 2 * significand = format.capacity ∧ format.minExponent < exponent
  · rw [if_pos power] at reached
    rcases lt_or_ge (numerator / denominator : ℚ) (significand * 2 ^ exponent) with short | past
    · exact rounded_below_power sized above positive power.1 power.2 reached short
    · have place : lastPlace format numerator denominator = exponent := by
        refine lastPlace_eq sized above positive least within (.inr ?_)
        have half : ((2 ^ (format.precision - 1) : Nat) : ℚ) = significand := by
          exact_mod_cast (show 2 ^ (format.precision - 1) = significand by omega)
        rw [half]
        exact past
      have counted : roundedAt numerator denominator exponent = significand := by
        refine roundedAt_eq_of_within positive (by linarith) below fun odd => ?_
        exact ⟨by linarith, (ends odd).2⟩
      rw [rounded, place, counted, carried, if_neg narrow.ne]
  · rw [if_neg power] at reached ends
    have place : lastPlace format numerator denominator = exponent := by
      refine lastPlace_eq sized above positive least within ?_
      rcases full with full | least
      · by_cases same : exponent = format.minExponent
        · exact .inl same
        · -- The number is past the least one of its width, so half a unit below it is not.
          right
          have past : ((2 ^ (format.precision - 1) : Nat) : ℚ) + 1 ≤ significand := by
            exact_mod_cast (show 2 ^ (format.precision - 1) + 1 ≤ significand by omega)
          nlinarith
      · exact .inl least
    have counted : roundedAt numerator denominator exponent = significand :=
      roundedAt_eq_of_within positive reached below ends
    rw [rounded, place, counted, carried, if_neg narrow.ne]

theorem convert_of_holds (sized : 0 < format.precision) (nonzero : significand ≠ 0)
    (canonical : format.Canonical significand exponent) {source : BinaryFormat} {y : Binary source}
    (finite : y.isFinite = true)
    (holds : (interval format significand exponent).Holds (exponent - 2) y.magnitude) :
    y.convert format = .finite y.isNegative significand exponent canonical := by
  obtain ⟨n, d, fraction, positive, same⟩ := fraction?_eq_some finite
  rw [convert_eq_nearest format fraction]
  exact nearest_of_holds sized nonzero canonical _ positive (same ▸ holds)

theorem interval_holds_self (format : BinaryFormat) (nonzero : significand ≠ 0) (exponent : Int) :
    (interval format significand exponent).Holds (exponent - 2) (significand * 2 ^ exponent) := by
  obtain ⟨high, low⟩ := interval_ends format nonzero exponent
  have unit : (0 : ℚ) < 2 ^ exponent := by positivity
  have inside : ((interval format significand exponent).low * 2 ^ (exponent - 2) : ℚ) <
        significand * 2 ^ exponent ∧
      (significand * 2 ^ exponent : ℚ) <
        (interval format significand exponent).high * 2 ^ (exponent - 2) := by
    rw [high, low]
    constructor
    · split <;> linarith
    · linarith
  exact ⟨inside.1.le, inside.2.le, fun _ => inside⟩

/-- A number of a format is rounded to itself. -/
theorem nearest_of_eq (sized : 0 < format.precision)
    (canonical : format.Canonical significand exponent) (negative : Bool)
    (positive : 0 < denominator)
    (same : (numerator / denominator : ℚ) = significand * 2 ^ exponent) :
    nearest format negative numerator denominator =
      .finite negative significand exponent canonical := by
  by_cases zero : significand = 0
  · have none : numerator = 0 := by
      rw [zero, Nat.cast_zero, zero_mul, div_eq_zero_iff] at same
      exact_mod_cast same.resolve_right (by exact_mod_cast positive.ne')
    have least : exponent = format.minExponent := by
      refine canonical.2.2.2.resolve_left fun full => ?_
      have room := format.capacity_pos
      omega
    subst zero least
    rw [nearest, if_pos none]
    rfl
  · exact nearest_of_holds sized zero canonical negative positive
      (same ▸ interval_holds_self format zero exponent)

theorem convert_self (sized : 0 < format.precision) {x : Binary format}
    (finite : x.isFinite = true) : x.convert format = x := by
  obtain ⟨n, d, fraction, positive, same⟩ := fraction?_eq_some finite
  rw [convert_eq_nearest format fraction]
  cases x with
  | nan => cases finite
  | infinite negative => cases finite
  | finite negative significand exponent canonical =>
      exact nearest_of_eq sized canonical negative positive same

/-- The nearest number of a rational that is a finite number of the format is there. -/
theorem position_ofRat_position (sized : 0 < format.precision) {x : Binary format}
    (finite : x.isFinite = true) : (ofRat format x.position).position = x.position := by
  obtain ⟨n, d, fraction, positive, same⟩ := fraction?_eq_some finite
  have self := convert_self sized finite
  rw [convert_eq_nearest format fraction] at self
  have rounded : (nearest format x.isNegative n d).position = _ :=
    position_nearest sized x.isNegative positive
  rw [self, same, ← position_of_isFinite finite] at rounded
  exact rounded.symm

end PagedJoins.Binary
