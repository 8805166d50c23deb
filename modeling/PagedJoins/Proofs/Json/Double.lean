import PagedJoins.Proofs.Json.Scaled
import PagedJoins.Proofs.Json.Written

/-!
# Numbers of 64 bits come back nearly

A number of the 64-bit format is written with its shortest decimal, whose digits may be more than
the format has, and is read in up to four rounded steps. What comes back is finite and has the sign
of the number, and is off by fewer than five units of its last place. It is the number itself if the
digits and the power of ten that it is written with are in the format.
-/

namespace PagedJoins.Layout

open Json Binary

section Double

variable {significand : Nat} {exponent : Int} {decimal : Decimal}

/-- The digits and the power of ten of a written number are in reach of the reader. -/
theorem reach_of_writes_double (negative : Bool) (nonzero : significand ≠ 0)
    (narrow : significand < 2 ^ 53) (least : -1074 ≤ exponent) (greatest : exponent ≤ 971)
    (writes : Writes .double significand exponent decimal) :
    (jsonDouble.decimalNumeral negative decimal).significand ≤ maxSignificand ∧
      -325 ≤ (jsonDouble.decimalNumeral negative decimal).power ∧
      (jsonDouble.decimalNumeral negative decimal).power ≤ 308 := by
  have range : jsonDouble.positional = some (-5, 15) := rfl
  have size := significand_decimalNumeral_lt range negative nonzero writes
    UInt64.size (lt_of_le_of_lt (by omega : _ ≤ 40 * 2 ^ 53 + 20) (by decide))
    (by norm_num [UInt64.size])
  have lower := le_power_decimalNumeral range negative nonzero writes (p := 324) (q := 1076)
    (by omega) (by decide)
  have below : decimal.value < 2 ^ (1024 : Nat) := by
    have width : (significand : ℚ) + 1 ≤ 2 ^ 53 := by exact_mod_cast narrow
    calc decimal.value ≤ (significand + 1 / 2) * 2 ^ exponent := (writes.value_bounds nonzero).2
      _ < 2 ^ (53 : Nat) * 2 ^ exponent := by
          gcongr
          linarith
      _ ≤ 2 ^ (53 : Nat) * 2 ^ (971 : Int) := by
          gcongr
          exact one_le_two
      _ = 2 ^ (1024 : Nat) := by
          rw [← zpow_natCast, ← zpow_natCast, ← zpow_add₀ two_ne_zero]
          rfl
  have upper := power_decimalNumeral_lt range negative nonzero writes (p := 309) below (by decide)
  exact ⟨Nat.le_pred_of_lt size, by omega, by omega⟩

/-- The errors of reading are counted in units of a number's last place. -/
theorem errorScale_le_unit (nonzero : significand ≠ 0) (narrow : significand < 2 ^ 53)
    (least : -1074 ≤ exponent) (writes : Writes .double significand exponent decimal) :
    errorScale decimal.value ≤ 2 ^ exponent := by
  have width : (significand : ℚ) + 1 ≤ 2 ^ 53 := by exact_mod_cast narrow
  have unit : (0 : ℚ) < 2 ^ exponent := by positivity
  have value : decimal.value ≤ 2 ^ 53 * 2 ^ exponent := by
    refine (writes.value_bounds nonzero).2.trans ?_
    gcongr
    linarith
  have normal : (2 : ℚ) ^ (-1022 : Int) ≤ 2 ^ 53 * 2 ^ exponent := by
    rw [← zpow_natCast, ← zpow_add₀ two_ne_zero]
    exact zpow_le_zpow_right₀ one_le_two (by push_cast; omega)
  calc errorScale decimal.value ≤ roundingError * (2 ^ 53 * 2 ^ exponent) :=
        mul_le_mul_of_nonneg_left (max_le value normal) roundingError_pos.le
    _ = 2 ^ exponent := by
        rw [roundingError, ← mul_assoc]
        norm_num

/-- There is room for the errors of reading, but for the greatest numbers. -/
theorem value_room (nonzero : significand ≠ 0) (narrow : significand < 2 ^ 53)
    (greatest : exponent ≤ 971) (room : significand + 4 ≤ 2 ^ 53 ∨ exponent < 971)
    (writes : Writes .double significand exponent decimal) :
    decimal.value * (1 + 3 * roundingError) < BinaryFormat.double.threshold := by
  have powers : (2 : ℚ) ^ exponent ≤ 2 ^ BinaryFormat.double.maxExponent :=
    zpow_le_zpow_right₀ one_le_two greatest
  have halves : exponent < 971 → (2 : ℚ) ^ exponent * 2 ≤ 2 ^ BinaryFormat.double.maxExponent := by
    intro below
    rw [← zpow_add_one₀ two_ne_zero]
    exact zpow_le_zpow_right₀ one_le_two (show exponent + 1 ≤ 971 by omega)
  have positive : (0 : ℚ) < 2 ^ BinaryFormat.double.maxExponent := by positivity
  have below := (writes.value_bounds nonzero).2
  have unit : (0 : ℚ) < 2 ^ exponent := by positivity
  rw [BinaryFormat.threshold, BinaryFormat.capacity_double]
  generalize (2 : ℚ) ^ BinaryFormat.double.maxExponent = top at powers halves positive ⊢
  have value : decimal.value ≤ (2 ^ 53 - 7 / 2) * top := by
    rcases room with few | small
    · have few' : (significand : ℚ) + 1 / 2 ≤ 2 ^ 53 - 7 / 2 := by
        have few' : (significand : ℚ) + 4 ≤ 2 ^ 53 := by exact_mod_cast few
        linarith
      exact below.trans (mul_le_mul few' powers unit.le (by norm_num))
    · have few : (significand : ℚ) + 1 / 2 ≤ 2 ^ 53 := by
        have few : (significand : ℚ) + 1 ≤ 2 ^ 53 := by exact_mod_cast narrow
        linarith
      have scaled := mul_le_mul_of_nonneg_right few unit.le
      have half := halves small
      norm_num at scaled ⊢
      linarith
  calc decimal.value * (1 + 3 * roundingError)
      ≤ (2 ^ 53 - 7 / 2) * top * (1 + 3 * roundingError) :=
        mul_le_mul_of_nonneg_right value (by linarith [roundingError_pos])
    _ = (2 ^ 53 - 7 / 2) * (1 + 3 * roundingError) * top := by ring
    _ < (2 ^ 53 - 1 / 2) * top :=
        mul_lt_mul_of_pos_right (by norm_num [roundingError]) positive

/-- A number that is not among the greatest is read with an error of fewer than five units. -/
theorem read_of_writes_double (negative : Bool) (nonzero : significand ≠ 0)
    (narrow : significand < 2 ^ 53) (least : -1074 ≤ exponent) (greatest : exponent ≤ 971)
    (room : significand + 4 ≤ 2 ^ 53 ∨ exponent < 971)
    (writes : Writes .double significand exponent decimal) :
    ∃ y, scaled? negative (jsonDouble.decimalNumeral negative decimal).significand
          (jsonDouble.decimalNumeral negative decimal).power = some y ∧
        y.isFinite = true ∧ y.isNegative = negative ∧
        |y.magnitude - significand * 2 ^ exponent| < 5 * 2 ^ exponent := by
  have range : jsonDouble.positional = some (-5, 15) := rfl
  have value := value_decimalNumeral range negative (writes.coefficient_ne_zero nonzero)
  have some := significand_decimalNumeral_ne_zero range negative nonzero writes
  obtain ⟨fits, low, high⟩ := reach_of_writes_double negative nonzero narrow least greatest writes
  have inRange := value_room nonzero narrow greatest room writes
  have scale := errorScale_le_unit nonzero narrow least writes
  have written : |decimal.value - significand * 2 ^ exponent| ≤ 2 ^ exponent / 2 := by
    obtain ⟨above, below⟩ := writes.value_bounds nonzero
    rw [abs_le]
    constructor <;> linarith
  have unit : (0 : ℚ) < 2 ^ exponent := by positivity
  have close : ∀ {y : Binary .double} {parts : ℚ}, 0 ≤ parts → parts ≤ 4 + 1 / 10 →
      |y.magnitude - decimal.value| ≤ parts * errorScale decimal.value →
      |y.magnitude - significand * 2 ^ exponent| < 5 * 2 ^ exponent := by
    intro y parts nonneg few moved
    have units : parts * errorScale decimal.value ≤ (4 + 1 / 10) * 2 ^ exponent :=
      mul_le_mul few scale (errorScale_nonneg _) (by norm_num)
    refine (abs_sub_le _ decimal.value _).trans_lt ?_
    linarith
  generalize jsonDouble.decimalNumeral negative decimal = numeral at *
  by_cases reach : -308 ≤ numeral.power
  · obtain ⟨y, read, finite, sign, moved⟩ := scaled?_error_in_reach negative some fits
      (show numeral.power.natAbs ≤ 308 by omega) (value.symm ▸ inRange)
    rw [value] at moved
    exact ⟨y, read, finite, sign, close (by norm_num) (by norm_num) moved⟩
  · obtain ⟨rest, same⟩ := Int.eq_ofNat_of_zero_le (show 0 ≤ -308 - numeral.power by omega)
    have power : numeral.power = -(308 + rest : Nat) := by omega
    obtain ⟨y, read, finite, sign, moved⟩ := scaled?_error_below_reach negative some fits
      (show rest ≤ 22 by omega) (show 0 < rest by omega)
    rw [← power, value] at moved
    rw [← power] at read
    exact ⟨y, read, finite, sign, close (by norm_num) le_rfl moved⟩

end Double

/-- The three greatest numbers, for whose errors there is no room, come back as they were or as the
number next to them. -/
theorem toBinary?_greatest : ∀ i < 3, ∀ negative : Bool,
    ∃ canonical : BinaryFormat.double.Canonical (9007199254740991 - 2 * (i / 2)) 971,
      (jsonDouble.numeral .double negative (9007199254740991 - i) 971).toBinary? .double =
        some (.finite negative (9007199254740991 - 2 * (i / 2)) 971 canonical) := by
  decide +kernel

section Numbers

variable {significand : Nat} {exponent : Int}

/-- Every finite number of 64 bits is read back with its sign, off by fewer than five units of its
last place. -/
theorem toBinary?_numeral_double (negative : Bool)
    (canonical : BinaryFormat.double.Canonical significand exponent) :
    ∃ y, (jsonDouble.numeral .double negative significand exponent).toBinary? .double = some y ∧
      y.isFinite = true ∧ y.isNegative = negative ∧
      |y.magnitude - significand * 2 ^ exponent| < 5 * 2 ^ exponent := by
  have ⟨narrow, least, greatest, full⟩ := canonical
  have narrow' : significand < 2 ^ 53 := narrow
  have least' : -1074 ≤ exponent := least
  have greatest' : exponent ≤ 971 := greatest
  have unit : (0 : ℚ) < 2 ^ exponent := by positivity
  by_cases none : significand = 0
  · subst none
    refine ⟨_, toBinary?_zero isJson_jsonDouble .double negative exponent, rfl, rfl, ?_⟩
    rw [zero, magnitude, Nat.cast_zero, zero_mul, zero_mul, sub_zero, abs_zero]
    linarith
  by_cases room : significand + 4 ≤ 2 ^ 53 ∨ exponent < 971
  · have writes : Writes .double significand exponent
        (shortest .double .even significand exponent) :=
      writes_shortest none narrow' least' greatest' .even
    have spells := spells_numeral isJson_jsonDouble .double negative narrow' least'
      greatest'
    have made : jsonDouble.numeral .double negative significand exponent =
        jsonDouble.decimalNumeral negative (shortest .double .even significand exponent) :=
      if_neg none
    obtain ⟨fits, -, -⟩ :=
      reach_of_writes_double negative none narrow' least' greatest' writes
    obtain ⟨y, read, finite, near⟩ :=
      read_of_writes_double negative none narrow' least' greatest' room writes
    rw [← made] at read fits
    refine ⟨y, ?_, finite, near⟩
    rw [toBinary?_of_scaled? spells fits read, convert_self (by decide) finite]
  · obtain ⟨large, last⟩ := not_or.mp room
    have top : exponent = 971 := by omega
    obtain ⟨i, few, rfl⟩ : ∃ i < 3, significand = 9007199254740991 - i :=
      ⟨9007199254740991 - significand, by omega, by omega⟩
    subst top
    obtain ⟨canonical', evaluated⟩ := toBinary?_greatest i few negative
    refine ⟨_, evaluated, rfl, rfl, ?_⟩
    rw [magnitude, ← sub_mul, abs_mul, abs_of_pos unit]
    refine mul_lt_mul_of_pos_right ?_ unit
    obtain rfl | rfl | rfl : i = 0 ∨ i = 1 ∨ i = 2 := by omega
    all_goals norm_num

/-- A number that is written with digits and a power of ten that the format has is read back as it
was written. -/
theorem toBinary?_numeral_double_of_short (negative : Bool)
    (canonical : BinaryFormat.double.Canonical significand exponent)
    (digits : (jsonDouble.numeral .double negative significand exponent).significand < 2 ^ 53)
    (power : (jsonDouble.numeral .double negative significand exponent).power.natAbs ≤ 22) :
    (jsonDouble.numeral .double negative significand exponent).toBinary? .double =
      some (.finite negative significand exponent canonical) := by
  have ⟨narrow, least, greatest, full⟩ := canonical
  by_cases none : significand = 0
  · subst none
    have smallest : exponent = -1074 := full.resolve_left (by decide)
    subst smallest
    exact toBinary?_zero isJson_jsonDouble .double negative _
  have range : jsonDouble.positional = some (-5, 15) := rfl
  have writes : Writes .double significand exponent
      (shortest .double .even significand exponent) :=
    writes_shortest none narrow least greatest .even
  have spells := spells_numeral isJson_jsonDouble .double negative narrow least greatest
  have value := value_decimalNumeral range negative (writes.coefficient_ne_zero none)
  have some := significand_decimalNumeral_ne_zero range negative none writes
  have made : jsonDouble.numeral .double negative significand exponent =
      jsonDouble.decimalNumeral negative (shortest .double .even significand exponent) :=
    if_neg none
  rw [← made] at value some
  obtain ⟨N, D, positive, same, read⟩ := scaled?_exact negative some digits power
  rw [value] at same
  have rounded : nearest .double negative N D = .finite negative significand exponent canonical :=
    nearest_of_holds (by decide) none canonical negative positive (same ▸ writes.inside)
  have finite : (nearest .double negative N D).isFinite = true := by rw [rounded]; rfl
  have inRange := (isFinite_nearest_iff .double (by decide) negative positive).mp finite
  rw [toBinary?_of_scaled? spells (digits.le.trans (by decide)) (read inRange),
    convert_self (by decide) finite, rounded]

end Numbers

end PagedJoins.Layout
