import PagedJoins.Binary.Numeral
import PagedJoins.Proofs.Binary.Nearest
import PagedJoins.Proofs.Binary.Shortest
import PagedJoins.Proofs.Text.Denotes

/-!
# The number of a numeral

A plain decimal numeral of any length is read as the number of the 64-bit format that is nearest to
the rational it denotes. Powers of ten that are not computed make no difference: what they leave out
is infinite or zero in any case.
-/

namespace PagedJoins.Binary

/-! ## Out of reach -/

theorem nearest_of_small {format : BinaryFormat} (sized : 0 < format.precision) (negative : Bool)
    {numerator denominator : Nat} (positive : 0 < denominator)
    (small : (numerator / denominator : ℚ) ≤ 1 / 2 * 2 ^ format.minExponent) :
    nearest format negative numerator denominator = zero negative := by
  by_cases none : numerator = 0
  · rw [nearest, if_pos none]
  have unit : (0 : ℚ) < 2 ^ format.minExponent := by positivity
  have some : (0 : ℚ) ≤ numerator / denominator := by positivity
  have place : lastPlace format numerator denominator = format.minExponent := by
    refine lastPlace_eq sized (Nat.pos_of_ne_zero none) positive le_rfl ?_ (.inl rfl)
    have room : (1 : ℚ) ≤ format.capacity := by exact_mod_cast format.capacity_pos
    nlinarith
  have counted : roundedAt numerator denominator format.minExponent = 0 := by
    refine roundedAt_eq_of_within positive ?_ ?_ (absurd · (by decide))
    · push_cast
      linarith
    · push_cast
      linarith
  apply nearest_of_rounded negative none format.canonical_zero
  rw [rounded, place, counted, carried, if_neg format.capacity_pos.ne]

theorem two_pow_le_ten_pow_cast {p q : Nat} (fits : 28 * q ≤ 93 * p) : (2 : ℚ) ^ q ≤ 10 ^ p := by
  exact_mod_cast two_pow_le_ten_pow fits

theorem threshold_double_le : BinaryFormat.double.threshold ≤ 10 ^ (400 : Nat) := by
  calc BinaryFormat.double.threshold
      ≤ 2 ^ (53 : Int) * 2 ^ BinaryFormat.double.maxExponent := by
        rw [BinaryFormat.threshold]
        gcongr
        norm_num [BinaryFormat.capacity, BinaryFormat.double]
    _ = 2 ^ (1024 : Nat) := by
        rw [← zpow_add₀ two_ne_zero, ← zpow_natCast]
        rfl
    _ ≤ 10 ^ (400 : Nat) := two_pow_le_ten_pow_cast (by decide)

theorem le_half_least_double : (1 / 10 ^ (401 : Nat) : ℚ) ≤
    1 / 2 * 2 ^ BinaryFormat.double.minExponent := by
  calc (1 / 10 ^ (401 : Nat) : ℚ)
      ≤ 1 / 2 ^ (1075 : Nat) :=
        one_div_le_one_div_of_le (by positivity) (two_pow_le_ten_pow_cast (by decide))
    _ = 2 ^ (-(1075 : Nat) : Int) := by rw [zpow_neg, zpow_natCast, one_div]
    _ = 1 / 2 * 2 ^ BinaryFormat.double.minExponent := by
      rw [one_div, ← zpow_neg_one, ← zpow_add₀ two_ne_zero]
      rfl

theorem ten_zpow_eq (exponent : Int) :
    (10 : ℚ) ^ exponent = 10 ^ exponent.toNat / 10 ^ (-exponent).toNat := by
  rcases Int.le_total 0 exponent with nonneg | nonpos
  · rw [Int.toNat_of_nonpos (Int.neg_nonpos_of_nonneg nonneg), pow_zero, div_one, ← zpow_natCast,
      Int.toNat_of_nonneg nonneg]
  · rw [Int.toNat_of_nonpos nonpos, pow_zero, one_div, ← zpow_natCast,
      Int.toNat_of_nonneg (Int.neg_nonneg_of_nonpos nonpos), zpow_neg, inv_inv]

theorem decimal_fraction (coefficient : Nat) (exponent : Int) :
    ((coefficient * 10 ^ exponent.toNat : Nat) / (10 ^ (-exponent).toNat : Nat) : ℚ) =
      coefficient * 10 ^ exponent := by
  rw [ten_zpow_eq]
  push_cast
  ring

/-- A decimal is rounded once, however far its power of ten is out of reach. -/
theorem ofDecimal_eq_nearest (negative : Bool) (coefficient : Nat) (exponent : Int) :
    ofDecimal .double negative coefficient exponent =
      nearest .double negative (coefficient * 10 ^ exponent.toNat) (10 ^ (-exponent).toNat) := by
  have units : 0 < 10 ^ (-exponent).toNat := Nat.pow_pos (by decide)
  by_cases none : coefficient = 0
  · rw [ofDecimal, if_pos none, nearest, if_pos (by rw [none, Nat.zero_mul])]
  have least : (10 : ℚ) ^ ((Text.digits coefficient).length - 1 : Int) ≤ coefficient := by
    have digits : 0 < (Text.digits coefficient).length :=
      List.length_pos_of_ne_nil (Text.digits_ne_nil coefficient)
    rw [show ((Text.digits coefficient).length - 1 : Int) =
      ((Text.digits coefficient).length - 1 : Nat) by omega, zpow_natCast]
    exact_mod_cast Text.ten_pow_length_le none
  have greatest : (coefficient : ℚ) < 10 ^ ((Text.digits coefficient).length : Int) := by
    rw [zpow_natCast]
    exact_mod_cast Text.lt_ten_pow_length coefficient
  have scale : (0 : ℚ) < 10 ^ exponent := by positivity
  have ten : (10 : ℚ) ≠ 0 := by norm_num
  rw [ofDecimal, if_neg none]
  dsimp only
  split
  · rename_i large
    have past : (10 : ℚ) ^ (400 : Nat) ≤ coefficient * 10 ^ exponent := by
      calc (10 : ℚ) ^ (400 : Nat)
          ≤ 10 ^ ((Text.digits coefficient).length - 1 + exponent : Int) := by
            rw [← zpow_natCast]
            apply zpow_le_zpow_right₀ (by norm_num)
            rw [decimalReach] at large
            push_cast
            omega
        _ ≤ coefficient * 10 ^ exponent := by
            rw [zpow_add₀ ten]
            exact mul_le_mul_of_nonneg_right least scale.le
    have wide : ¬ (nearest .double negative (coefficient * 10 ^ exponent.toNat)
        (10 ^ (-exponent).toNat)).isFinite = true := by
      rw [isFinite_nearest_iff .double (by decide) negative units, decimal_fraction, not_lt]
      exact threshold_double_le.trans past
    exact (nearest_eq_infinite negative (eq_false_of_ne_true wide)).symm
  split
  · rename_i small
    have short : (coefficient * 10 ^ exponent : ℚ) ≤ 1 / 10 ^ (401 : Nat) := by
      calc (coefficient * 10 ^ exponent : ℚ)
          ≤ 10 ^ ((Text.digits coefficient).length : Int) * 10 ^ exponent :=
            mul_le_mul_of_nonneg_right greatest.le scale.le
        _ = 10 ^ ((Text.digits coefficient).length + exponent : Int) := (zpow_add₀ ten _ _).symm
        _ ≤ 10 ^ (-401 : Int) := by
            apply zpow_le_zpow_right₀ (by norm_num)
            rw [decimalReach] at small
            omega
        _ = 1 / 10 ^ (401 : Nat) := by
            rw [zpow_neg, one_div, ← zpow_natCast]
            rfl
    exact (nearest_of_small (by decide) negative units
      ((decimal_fraction coefficient exponent).trans_le (short.trans le_half_least_double))).symm
  split
  · rename_i nonneg
    rw [Int.toNat_of_nonpos (Int.neg_nonpos_of_nonneg nonneg)]
    rfl
  · rename_i below
    rw [Int.toNat_of_nonpos (Int.le_of_not_le below), Nat.pow_zero, Nat.mul_one]
    rfl

/-! ## Texts -/

theorem isDigit_iff {c : Char} : c.isDigit = true ↔ 48 ≤ c.toNat ∧ c.toNat ≤ 57 := by
  rw [Char.isDigit, Bool.and_eq_true, decide_eq_true_eq, decide_eq_true_eq]
  exact Iff.rfl

theorem ofList_ne_of_isDigit {c d : Char} {rest : List Char} {word : String}
    (digit : c.isDigit = true) (starts : word.toList.head? = some d) (letter : d.isDigit = false) :
    String.ofList ((c :: rest).map Char.toLower) ≠ word := by
  rintro rfl
  have same : c.toLower = c := by
    obtain ⟨-, within⟩ := isDigit_iff.mp digit
    unfold Char.toLower
    exact dif_neg fun upper => absurd (show 65 ≤ c.toNat from upper.1) (by omega)
  rw [String.toList_ofList, List.map_cons, List.head?_cons, same] at starts
  cases starts
  exact absurd digit (by rw [letter]; exact Bool.false_ne_true)

theorem ofUnsigned?_of_denotes {chars : List Char} {q : ℚ} (plain : Text.DenotesPlain chars q)
    (negative : Bool) :
    ∃ n d : Nat, 0 < d ∧ q = n / d ∧
      ofUnsigned? .double negative chars = some (nearest .double negative n d) := by
  obtain ⟨c, rest, starts, digit⟩ := plain.head
  obtain ⟨whole, fraction, point, rfl, run, digits, pointed, value⟩ := plain.parts
  have words : ∀ word d, word.toList.head? = some d → d.isDigit = false →
      String.ofList ((whole ++ point).map Char.toLower) ≠ word := by
    intro word d first letter
    rw [starts]
    exact ofList_ne_of_isDigit digit first letter
  have finite := words "inf" 'i' (by decide) (by decide)
  have finite' := words "infinity" 'i' (by decide) (by decide)
  have number := words "nan" 'n' (by decide) (by decide)
  refine ⟨Text.ofDigits (whole ++ fraction), 10 ^ fraction.length, Nat.pow_pos (by decide), ?_, ?_⟩
  · rw [value]
    push_cast
    rfl
  · have span : Text.spanDigits (whole ++ point) = (whole, point) := by
      apply Text.spanDigits_of_run run.2
      rcases pointed with ⟨rfl, -⟩ | rfl
      · exact nofun
      · rintro c first
        cases first
        rfl
    have split : splitFraction point = (fraction, []) := by
      rcases pointed with ⟨rfl, rfl⟩ | rfl
      · rfl
      · have all : Text.spanDigits (fraction ++ []) = (fraction, []) :=
          Text.spanDigits_of_run digits nofun
        rw [List.append_nil] at all
        exact all
    have some : ¬ (whole = [] ∧ fraction = []) := fun none => run.1 none.1
    rw [ofUnsigned?]
    dsimp only
    rw [if_neg (not_or.mpr ⟨finite, finite'⟩), if_neg number, span]
    dsimp only
    rw [split]
    dsimp only
    rw [if_neg some]
    change Option.some (ofDecimal .double negative (Text.ofDigits (whole ++ fraction))
      (0 - (fraction.length : Int))) = _
    rw [ofDecimal_eq_nearest, Int.zero_sub, Int.toNat_of_nonpos (by omega), Int.neg_neg,
      Int.toNat_natCast, Nat.pow_zero, Nat.mul_one]

/-- A plain numeral is read as the number nearest to the rational that it denotes. -/
theorem ofText?_of_denotes {text : String} {q : ℚ} (denotes : Text.Denotes text.toList q) :
    ∃ x, ofText? .double text = some x ∧ x ≠ .nan ∧
      x.position = (ofRat .double q).position := by
  have unsigned : ∀ {chars : List Char} {q : ℚ} (negative : Bool), Text.DenotesPlain chars q →
      ∃ x, ofUnsigned? .double negative chars = some x ∧ x ≠ .nan ∧
        x.position = (ofRat .double (if negative then -q else q)).position := by
    intro chars q negative plain
    obtain ⟨n, d, positive, value, read⟩ := ofUnsigned?_of_denotes plain negative
    refine ⟨_, read, nearest_ne_nan negative, ?_⟩
    rw [position_nearest (by decide) negative positive, value]
  rw [ofText?]
  generalize text.toList = chars at denotes
  cases denotes with
  | bare plain =>
      obtain ⟨c, rest, rfl, digit⟩ := plain.head
      have unsplit : splitSign (c :: rest) = (false, c :: rest) := by
        unfold splitSign
        split
        · rename_i same
          cases same
          cases digit
        · rename_i same
          cases same
          cases digit
        · rfl
      rw [unsplit]
      exact unsigned false plain
  | plus plain => exact unsigned false plain
  | minus plain => exact unsigned true plain

end PagedJoins.Binary
