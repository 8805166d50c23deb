import PagedJoins.Proofs.Binary.NearTies
import PagedJoins.Proofs.Json.Scaled
import PagedJoins.Proofs.Json.Written

/-!
# Numbers of 32 bits come back

A number of the 32-bit format is read in the 64-bit format, in rounded steps, and is narrowed then.
The steps move its decimal by a small part of a unit of the narrow format, so the number comes back
unless the decimal is as close to an end of the number's interval as that. The ends are ties, and
such decimals are ties themselves, which are read exactly; but for one, which is worked out. The
intervals of the powers of two reach less far down than up, and none of their decimals is close to
an end.
-/

namespace PagedJoins.Layout

open Json Binary

/-! ## The ends of intervals -/

/-- Is a rational further from the ends of the interval of a number than reading moves it? -/
def IsClear (significand : Nat) (exponent : Int) (q : ℚ) : Prop :=
  ((interval .single significand exponent).low * 2 ^ (exponent - 2) : ℚ) <
      q - 4 / (5 * 2 ^ 28) * 2 ^ exponent ∧
    q + 4 / (5 * 2 ^ 28) * 2 ^ exponent <
      ((interval .single significand exponent).high * 2 ^ (exponent - 2) : ℚ)

/-- What a clear rational is moved to lies in the interval. -/
theorem IsClear.holds {significand : Nat} {exponent : Int} {p q : ℚ}
    (clear : IsClear significand exponent q)
    (near : |p - q| ≤ 4 / (5 * 2 ^ 28) * 2 ^ exponent) :
    (interval .single significand exponent).Holds (exponent - 2) p := by
  obtain ⟨low, high⟩ := clear
  obtain ⟨below, above⟩ := abs_le.mp near
  have inside : ((interval .single significand exponent).low * 2 ^ (exponent - 2) : ℚ) < p ∧
      p < ((interval .single significand exponent).high * 2 ^ (exponent - 2) : ℚ) :=
    ⟨by linarith, by linarith⟩
  exact ⟨inside.1.le, inside.2.le, fun _ => inside⟩

/-- Is the decimal of a power of two clear of the ends, in whole parts of a unit? -/
def clearsEnds (exponent : Int) : Bool :=
  let ends := interval .single 8388608 exponent
  let decimal := shortest .single .even 8388608 exponent
  let step := gridStep (exponent - 2) decimal.exponent
  let unit := gridUnit (exponent - 2) decimal.exponent
  (5 * 2 ^ 28 * ends.low + 17) * unit ≤ 5 * 2 ^ 28 * decimal.coefficient * step &&
    5 * 2 ^ 28 * decimal.coefficient * step ≤ (5 * 2 ^ 28 * ends.high - 17) * unit

theorem clearsEnds_single : ∀ i < 253, clearsEnds ((i : Nat) - 148) = true := by
  decide +kernel

theorem isClear_power {exponent : Int} (least : -149 < exponent) (greatest : exponent ≤ 104) :
    IsClear 8388608 exponent (shortest .single .even 8388608 exponent).value := by
  have clear := clearsEnds_single (exponent + 148).toNat (by omega)
  rw [show ((exponent + 148).toNat : Int) - 148 = exponent by omega] at clear
  simp only [clearsEnds, Bool.and_eq_true, decide_eq_true_eq, units_le_steps_iff,
    steps_le_units_iff] at clear
  obtain ⟨low, high⟩ := clear
  have room : 17 ≤ 5 * 2 ^ 28 * (interval .single 8388608 exponent).high :=
    show 17 ≤ 5 * 2 ^ 28 * 33554434 by decide
  have unit : (0 : ℚ) < 2 ^ (exponent - 2) := by positivity
  rw [Nat.cast_sub room] at high
  rw [IsClear, Decimal.value, quarter_eq exponent]
  push_cast at low high
  constructor <;> linarith

/-- Is a rational a tie of whole numbers, or is the number one of the two next to the closest tie? -/
def IsAtTie (significand : Nat) (exponent : Int) (q : ℚ) : Prop :=
  ((∃ multiple : Nat, q = (multiple + 1 / 2) * 2 ^ exponent) ∧ 0 ≤ exponent ∧ exponent ≤ 33) ∨
    exponent = -107 ∧ significand ∈ [11420669, 11420670]

theorem eq_of_closestTie {multiple : Nat}
    (near : |(closestTie * 10 ^ tieGrid (-107) : ℚ) - (multiple + 1 / 2) * 2 ^ (-107 : Int)| ≤
      4 / (5 * 2 ^ 28) * 2 ^ (-107 : Int)) : multiple = 11420669 := by
  rw [show tieGrid (-107) = -32 by decide +kernel, closestTie] at near
  obtain ⟨low, high⟩ := abs_le.mp near
  norm_num at low high
  have above : (11420668 : ℚ) < multiple := by linarith
  have below : (multiple : ℚ) < 11420670 := by linarith
  have above' : 11420668 < multiple := by exact_mod_cast above
  have below' : multiple < 11420670 := by exact_mod_cast below
  omega

section Single

variable {significand : Nat} {exponent : Int} {decimal : Decimal}

/-- The decimal of a number that is no power of two is clear of the ends, or at a tie. -/
theorem isClear_or_isAtTie (nonzero : significand ≠ 0) (narrow : significand < 2 ^ 24)
    (least : -149 ≤ exponent) (greatest : exponent ≤ 104)
    (regular : ¬ (2 * significand = BinaryFormat.single.capacity ∧
      BinaryFormat.single.minExponent < exponent))
    (writes : Writes .single significand exponent decimal) :
    IsClear significand exponent decimal.value ∨ IsAtTie significand exponent decimal.value := by
  have unit : (0 : ℚ) < 2 ^ exponent := by positivity
  have width : (significand : ℚ) + 1 ≤ 2 ^ 24 := by exact_mod_cast narrow
  obtain ⟨high, low⟩ := interval_ends .single nonzero exponent
  rw [if_neg regular] at low
  rw [IsClear, high, low]
  by_cases fine : decimal.exponent < tieGrid exponent
  · left
    have finer := finer_of_lt_tieGrid least greatest fine
    obtain ⟨above, below⟩ := abs_le.mp (writes.near regular)
    constructor <;> linarith
  · obtain ⟨steps, same⟩ := Int.eq_ofNat_of_zero_le (sub_nonneg.mpr (not_lt.mp fine))
    have multiple : decimal.value = (decimal.coefficient * 10 ^ steps : Nat) *
        10 ^ tieGrid exponent := by
      rw [Decimal.value, show decimal.exponent = steps + tieGrid exponent by omega,
        zpow_add₀ (by norm_num), zpow_natCast]
      push_cast
      ring
    obtain ⟨above, below⟩ := writes.value_bounds nonzero
    have small : ((decimal.coefficient * 10 ^ steps : Nat) * 10 ^ tieGrid exponent : ℚ) ≤
        2 ^ 24 * 2 ^ exponent := by
      rw [← multiple]
      refine below.trans ?_
      gcongr
      linarith
    -- The lower neighbour of a tie that the decimal is close to.
    have tie : ∀ neighbour : Nat, significand ∈ [neighbour, neighbour + 1] →
        |decimal.value - (neighbour + 1 / 2) * 2 ^ exponent| ≤
          4 / (5 * 2 ^ 28) * 2 ^ exponent →
        IsAtTie significand exponent decimal.value := by
      intro neighbour next close
      rw [multiple] at close ⊢
      rcases near_tie least greatest small close with ⟨exactly, range⟩ | ⟨rfl, closest⟩
      · exact .inl ⟨⟨neighbour, exactly⟩, range⟩
      · rw [closest] at close
        have found := eq_of_closestTie close
        subst found
        exact .inr ⟨rfl, next⟩
    by_cases up : |decimal.value - (significand + 1 / 2) * 2 ^ exponent| ≤
        4 / (5 * 2 ^ 28) * 2 ^ exponent
    · exact .inr (tie significand (List.mem_cons_self ..) up)
    by_cases down : |decimal.value - (significand - 1 / 2) * 2 ^ exponent| ≤
        4 / (5 * 2 ^ 28) * 2 ^ exponent
    · right
      refine tie (significand - 1) (List.mem_pair.mpr (.inr (by omega))) ?_
      rw [Nat.cast_sub (by omega)]
      convert down using 3
      push_cast
      ring
    · left
      rw [not_le, abs_of_nonpos (by linarith)] at up
      rw [not_le, abs_of_nonneg (by linarith)] at down
      constructor <;> linarith

theorem reach_of_writes (negative : Bool) (nonzero : significand ≠ 0)
    (narrow : significand < 2 ^ 24) (least : -149 ≤ exponent) (greatest : exponent ≤ 104)
    (writes : Writes .single significand exponent decimal) :
    (jsonSingle.decimalNumeral negative decimal).significand < 2 ^ 53 ∧
      (jsonSingle.decimalNumeral negative decimal).power.natAbs ≤ 308 := by
  have range : jsonSingle.positional = some (-6, 12) := rfl
  have size := significand_decimalNumeral_lt range negative nonzero writes (2 ^ 53)
    (by omega) (by norm_num)
  have lower := le_power_decimalNumeral range negative nonzero writes (p := 46) (q := 151)
    (by omega) (by decide)
  have below : decimal.value < 2 ^ (129 : Nat) := by
    have width : (significand : ℚ) + 1 ≤ 2 ^ 24 := by exact_mod_cast narrow
    have powers : (2 : ℚ) ^ exponent ≤ 2 ^ (104 : Int) :=
      zpow_le_zpow_right₀ one_le_two greatest
    calc decimal.value ≤ (significand + 1 / 2) * 2 ^ exponent := (writes.value_bounds nonzero).2
      _ ≤ 2 ^ 24 * 2 ^ (104 : Int) := by
          gcongr
          linarith
      _ < 2 ^ (129 : Nat) := by norm_num
  have upper := power_decimalNumeral_lt range negative nonzero writes (p := 39) below (by decide)
  exact ⟨size, by omega⟩

/-- A decimal is moved by no more than the margin when it is read. -/
theorem read_of_writes (negative : Bool) (nonzero : significand ≠ 0)
    (narrow : significand < 2 ^ 24) (least : -149 ≤ exponent) (greatest : exponent ≤ 104)
    (writes : Writes .single significand exponent decimal) :
    ∃ y, scaled? negative (jsonSingle.decimalNumeral negative decimal).significand
          (jsonSingle.decimalNumeral negative decimal).power = some y ∧
        y.isFinite = true ∧ y.isNegative = negative ∧
        |y.magnitude - decimal.value| ≤ 4 / (5 * 2 ^ 28) * 2 ^ exponent := by
  have range : jsonSingle.positional = some (-6, 12) := rfl
  have unit : (0 : ℚ) < 2 ^ exponent := by positivity
  have width : (significand : ℚ) + 1 ≤ 2 ^ 24 := by exact_mod_cast narrow
  have value := value_decimalNumeral range negative (writes.coefficient_ne_zero nonzero)
  have below := (writes.value_bounds nonzero).2
  obtain ⟨size, reach⟩ := reach_of_writes negative nonzero narrow least greatest writes
  have place : (2 : ℚ) ^ exponent = 2 ^ 29 * 2 ^ (exponent - 29) := by
    rw [← zpow_natCast, ← zpow_add₀ two_ne_zero]
    congr 1
    omega
  have small : decimal.value ≤ (2 ^ 24 - 1 / 2) * 2 ^ exponent := by
    refine below.trans ?_
    gcongr
    linarith
  obtain ⟨y, read, finite, sign, moved⟩ := scaled?_at_place negative
    (significand_decimalNumeral_ne_zero range negative nonzero writes) size reach
    (exponent - 29) (by change -1074 ≤ _; omega) (by change _ ≤ (971 - 1 : Int); omega) (by
      rw [value, roundingError]
      norm_num at small place ⊢
      linarith)
  refine ⟨y, read, finite, sign, ?_⟩
  rw [value] at moved
  refine moved.trans ?_
  rw [roundingError]
  norm_num at small place ⊢
  linarith

theorem read_of_tie (negative : Bool) (nonzero : significand ≠ 0)
    (narrow : significand < 2 ^ 24) (least : 0 ≤ exponent) (greatest : exponent ≤ 33)
    (writes : Writes .single significand exponent decimal) {multiple : Nat}
    (tie : decimal.value = (multiple + 1 / 2) * 2 ^ exponent) :
    ∃ y, scaled? negative (jsonSingle.decimalNumeral negative decimal).significand
          (jsonSingle.decimalNumeral negative decimal).power = some y ∧
        y.isFinite = true ∧ y.isNegative = negative ∧ y.magnitude = decimal.value := by
  have range : jsonSingle.positional = some (-6, 12) := rfl
  have width : (significand : ℚ) + 1 ≤ 2 ^ 24 := by exact_mod_cast narrow
  have unit : (0 : ℚ) < 2 ^ exponent := by positivity
  have value := value_decimalNumeral range negative (writes.coefficient_ne_zero nonzero)
  obtain ⟨size, -⟩ := reach_of_writes negative nonzero narrow (by omega) (by omega) writes
  have lower := le_power_decimalNumeral range negative nonzero writes (p := 1) (q := 2)
    (by omega) (by decide)
  have small : decimal.value < 2 ^ 24 * 2 ^ exponent := by
    refine (writes.value_bounds nonzero).2.trans_lt ?_
    gcongr
    linarith
  have below : decimal.value < 2 ^ (57 : Nat) := by
    have powers : (2 : ℚ) ^ exponent ≤ 2 ^ (33 : Int) := zpow_le_zpow_right₀ one_le_two greatest
    calc decimal.value < 2 ^ 24 * 2 ^ exponent := small
      _ ≤ 2 ^ 24 * 2 ^ (33 : Int) := by gcongr
      _ = 2 ^ (57 : Nat) := by norm_num
  have upper := power_decimalNumeral_lt range negative nonzero writes (p := 18) below (by decide)
  obtain ⟨N, D, positive, same, read⟩ := scaled?_exact negative
    (significand_decimalNumeral_ne_zero range negative nonzero writes) size
    (show (jsonSingle.decimalNumeral negative decimal).power.natAbs ≤ 22 by omega)
  rw [value] at same
  have inRange : (N / D : ℚ) < BinaryFormat.double.threshold := by
    rw [same]
    refine below.trans (lt_trans ?_ BinaryFormat.wide_double.reach)
    norm_num
  have finite := (isFinite_nearest_iff .double (by decide) negative positive).mpr inRange
  have half : (2 : ℚ) ^ exponent = 2 * 2 ^ (exponent - 1) := by
    rw [zpow_sub_one₀ two_ne_zero]
    ring
  refine ⟨_, read inRange, finite, isNegative_nearest negative, ?_⟩
  rw [magnitude_nearest_of_units (by decide) negative positive finite (2 * multiple + 1)
    (exponent - 1) (by change -1074 ≤ _; omega), same]
  · rw [half] at small
    rw [same, BinaryFormat.capacity_double]
    have place : (0 : ℚ) < 2 ^ (exponent - 1) := by positivity
    linarith
  · rw [same, tie, half]
    push_cast
    ring

end Single

/-! ## Coming back -/

theorem toBinary?_closestTie : ∀ significand ∈ [11420669, 11420670], ∀ negative : Bool,
    ∃ canonical : BinaryFormat.single.Canonical significand (-107),
      (jsonSingle.numeral .single negative significand (-107)).toBinary? .single =
        some (.finite negative significand (-107) canonical) := by
  decide +kernel

/-- Every finite number of 32 bits is read back as it was written. -/
theorem toBinary?_numeral_single (negative : Bool) {significand : Nat} {exponent : Int}
    (canonical : BinaryFormat.single.Canonical significand exponent) :
    (jsonSingle.numeral .single negative significand exponent).toBinary? .single =
      some (.finite negative significand exponent canonical) := by
  have ⟨narrow, least, greatest, full⟩ := canonical
  have narrow' : significand < 2 ^ 24 := narrow
  have least' : -149 ≤ exponent := least
  have greatest' : exponent ≤ 104 := greatest
  by_cases zero : significand = 0
  · subst zero
    have smallest : exponent = -149 := full.resolve_left (by decide)
    subst smallest
    exact toBinary?_zero isJson_jsonSingle .single negative _
  have wide : significand < Nat.pow 2 53 := narrow'.trans (by decide)
  have writes : Writes .single significand exponent
      (shortest .single .even significand exponent) :=
    writes_shortest zero wide (by omega) (by omega) .even
  have spells := spells_numeral isJson_jsonSingle .single negative wide
    (show -1074 ≤ exponent by omega) (by omega)
  have made : jsonSingle.numeral .single negative significand exponent =
      jsonSingle.decimalNumeral negative (shortest .single .even significand exponent) :=
    if_neg zero
  obtain ⟨size, -⟩ := reach_of_writes negative zero narrow' least' greatest' writes
  have comesBack : ∀ y,
      scaled? negative (jsonSingle.numeral .single negative significand exponent).significand
          (jsonSingle.numeral .single negative significand exponent).power = some y →
        y.isFinite = true → y.isNegative = negative →
      (interval .single significand exponent).Holds (exponent - 2) y.magnitude →
      (jsonSingle.numeral .single negative significand exponent).toBinary? .single =
        some (.finite negative significand exponent canonical) := by
    intro y read finite sign holds
    rw [← made] at size
    rw [toBinary?_of_scaled? spells (size.le.trans (by decide)) read,
      convert_of_holds (by decide) zero canonical finite holds, sign]
  have clear_or_tie :
      IsClear significand exponent (shortest .single .even significand exponent).value ∨
        IsAtTie significand exponent (shortest .single .even significand exponent).value := by
    by_cases power : 2 * significand = BinaryFormat.single.capacity ∧
        BinaryFormat.single.minExponent < exponent
    · obtain ⟨half, above⟩ := power
      have same : significand = 8388608 := by
        rw [show BinaryFormat.single.capacity = 16777216 from rfl] at half
        omega
      subst same
      exact .inl (isClear_power above greatest')
    · exact isClear_or_isAtTie zero narrow' least' greatest' power writes
  rcases clear_or_tie with clear | ⟨⟨multiple, tie⟩, low, high⟩ | ⟨rfl, next⟩
  · obtain ⟨y, read, finite, sign, moved⟩ :=
      read_of_writes negative zero narrow' least' greatest' writes
    rw [← made] at read
    exact comesBack y read finite sign (clear.holds moved)
  · obtain ⟨y, read, finite, sign, exactly⟩ :=
      read_of_tie negative zero narrow' low high writes tie
    rw [← made] at read
    exact comesBack y read finite sign (exactly ▸ writes.inside)
  · exact (toBinary?_closestTie significand next negative).2

end PagedJoins.Layout
