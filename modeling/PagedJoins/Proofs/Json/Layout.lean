import PagedJoins.Proofs.Binary.Layout
import PagedJoins.Proofs.Binary.ShortestDecimal
import PagedJoins.Proofs.Json.Spelling

/-!
# The numerals of floating-point numbers

A finite number set out for JSON is a spelled number with a fraction or an exponent. Its digits are
the significant digits of its shortest decimal, and it denotes that decimal; only a whole number in
positional form is spelled with zeros behind its significant digits, one of them as its fraction.
-/

namespace PagedJoins.Layout

open Json

/-! ## Significant digits -/

theorem significantDigits_append (n : Nat) :
    (significantDigits n).1 ++ List.replicate (significantDigits n).2 '0' = Text.digits n := by
  have parts : (Text.digits n).reverse.takeWhile (· = '0') ++
      (Text.digits n).reverse.dropWhile (· = '0') = (Text.digits n).reverse :=
    List.takeWhile_append_dropWhile
  have zeros : (Text.digits n).reverse.takeWhile (· = '0') =
      List.replicate ((Text.digits n).reverse.takeWhile (· = '0')).length '0' := by
    refine List.eq_replicate_of_mem fun c member => ?_
    have zero : decide (c = '0') = true :=
      List.mem_takeWhile_imp (p := fun c => decide (c = '0')) member
    exact of_decide_eq_true zero
  generalize (Text.digits n).reverse.takeWhile (· = '0') = dropped at parts zeros
  have whole : ((Text.digits n).reverse.dropWhile (· = '0')).reverse ++ dropped.reverse =
      Text.digits n := by
    rw [← List.reverse_append, parts, List.reverse_reverse]
  have count : (significantDigits n).2 = dropped.length := by
    have sizes := congrArg List.length whole
    rw [List.length_append, @List.length_reverse _ dropped] at sizes
    rw [significantDigits]
    dsimp only
    omega
  rw [count, ← List.reverse_replicate, ← zeros]
  exact whole

/-- The significant digits make up a number up to powers of ten. -/
theorem ofDigits_significantDigits (n : Nat) :
    Text.ofDigits (significantDigits n).1 * 10 ^ (significantDigits n).2 = n := by
  have all := Text.ofDigits_append (significantDigits n).1
    (List.replicate (significantDigits n).2 '0')
  rw [significantDigits_append, Text.ofDigits_digits, List.length_replicate,
    Text.ofDigits_replicate_zero, Nat.add_zero] at all
  exact all.symm

theorem ofDigits_significantDigits_lt (n : Nat) :
    Text.ofDigits (significantDigits n).1 < 10 ^ (significantDigits n).1.length := by
  have all := Text.lt_ten_pow_length n
  rw [← significantDigits_append, List.length_append, List.length_replicate, Nat.pow_add] at all
  have scaled := (ofDigits_significantDigits n).trans_lt all
  exact (Nat.mul_lt_mul_right (Nat.pow_pos (by decide))).mp scaled

theorem head?_significantDigits {n : Nat} (nonzero : n ≠ 0) :
    (significantDigits n).1.head? ≠ some '0' := by
  have first : (Text.digits n).head? = (significantDigits n).1.head? := by
    rw [← significantDigits_append,
      List.head?_append_of_ne_nil _ (significantDigits_ne_nil nonzero)]
  rw [← first]
  exact Text.head?_digits (Nat.pos_of_ne_zero nonzero)

/-! ## Numerals -/

/-- The numeral of digits in positional form, `point` of them before the point. -/
def positionalNumeral (negative : Bool) (digits : List Char) (point : Int) : Numeral :=
  let count : Int := digits.length
  if count ≤ point then
    ⟨negative, digits ++ List.replicate (point - count).toNat '0', ['0'], none⟩
  else if 0 < point then
    ⟨negative, digits.take point.toNat, digits.drop point.toNat, none⟩
  else
    ⟨negative, ['0'], List.replicate (-point).toNat '0' ++ digits, none⟩

/-- The numeral of digits with a point after the first, and the power of ten of the first. -/
def scientificNumeral (negative : Bool) (digits : List Char) (power : Int) : Numeral :=
  ⟨negative, digits.take 1, digits.drop 1, some power⟩

/-- A layout that keeps the fraction of a whole number, and writes every sign of an exponent. -/
structure IsJson (layout : Layout) : Prop where
  keepsFraction : layout.keepsFraction = true
  plusSign : layout.plusSign = true

section Positional

variable {layout : Layout} {digits : List Char}

theorem spelling_positionalNumeral (json : layout.IsJson) (negative : Bool) (some : digits ≠ [])
    (point : Int) :
    (positionalNumeral negative digits point).spelling =
      signChars negative ++ layout.positionalChars digits point := by
  unfold positionalNumeral positionalChars
  dsimp only
  rw [if_pos json.keepsFraction]
  split
  · simp [Numeral.spelling, Numeral.fractionChars, Numeral.exponentChars]
  · rename_i short
    split
    · rename_i before
      have rest : digits.drop point.toNat ≠ [] := by
        intro none
        have past := List.drop_eq_nil_iff.mp none
        omega
      simp [Numeral.spelling, Numeral.fractionChars, Numeral.exponentChars, rest]
    · simp [Numeral.spelling, Numeral.fractionChars, Numeral.exponentChars, some]

theorem fraction_positionalNumeral (negative : Bool) (some : digits ≠ []) (point : Int) :
    (positionalNumeral negative digits point).fraction ≠ [] := by
  unfold positionalNumeral
  dsimp only
  split
  · exact List.cons_ne_nil _ _
  · rename_i short
    split
    · intro none
      have past := List.drop_eq_nil_iff.mp none
      omega
    · simp [some]

theorem negative_positionalNumeral (negative : Bool) (digits : List Char) (point : Int) :
    (positionalNumeral negative digits point).negative = negative := by
  unfold positionalNumeral
  dsimp only
  split
  · rfl
  · split <;> rfl

theorem wellFormed_positionalNumeral (negative : Bool) (run : Text.IsRun Char.isDigit digits)
    {point : Int} (leading : digits.head? = some '0' → digits = ['0'] ∧ point = 1) :
    (positionalNumeral negative digits point).WellFormed := by
  obtain ⟨c, others, rfl⟩ := List.exists_cons_of_ne_nil run.1
  unfold positionalNumeral
  dsimp only
  split
  · refine ⟨⟨by simp, ?_⟩, ?_, List.forall_mem_singleton.mpr (by decide)⟩
    · exact List.forall_mem_append.mpr ⟨run.2, fun _ => isDigit_of_mem_replicate⟩
    · rintro zero
      obtain ⟨single, one⟩ := leading zero
      rw [single, one]
      rfl
  · rename_i short
    split
    · rename_i before
      obtain ⟨steps, rfl⟩ := Int.eq_ofNat_of_zero_le before.le
      obtain ⟨fewer, rfl⟩ := Nat.exists_eq_add_one_of_ne_zero (n := steps) (by omega)
      refine ⟨⟨by simp, fun d member => run.2 d (List.mem_of_mem_take member)⟩, fun zero => ?_,
        fun d member => run.2 d (List.mem_of_mem_drop member)⟩
      obtain ⟨single, one⟩ := leading zero
      rw [single, one] at short
      exact absurd le_rfl short
    · refine ⟨⟨List.cons_ne_nil _ _, List.forall_mem_singleton.mpr (by decide)⟩, fun _ => rfl, ?_⟩
      exact List.forall_mem_append.mpr ⟨fun _ => isDigit_of_mem_replicate, run.2⟩

theorem spells_positionalNumeral (json : layout.IsJson) (negative : Bool)
    (run : Text.IsRun Char.isDigit digits) {point : Int}
    (leading : digits.head? = some '0' → digits = ['0'] ∧ point = 1) :
    (positionalNumeral negative digits point).Spells negative
      (layout.positionalChars digits point) where
  spelled := spelling_positionalNumeral json negative run.1 point
  wellFormed := wellFormed_positionalNumeral negative run leading
  decimal := .inl (fraction_positionalNumeral negative run.1 point)
  sign := negative_positionalNumeral negative digits point

theorem significand_positionalNumeral (negative : Bool) (digits : List Char) (point : Int) :
    ((positionalNumeral negative digits point).significand = Text.ofDigits digits ∧
        (positionalNumeral negative digits point).power = point - digits.length) ∨
      digits.length ≤ point ∧
        (positionalNumeral negative digits point).significand =
          Text.ofDigits digits * 10 ^ ((point - digits.length).toNat + 1) ∧
        (positionalNumeral negative digits point).power = -1 := by
  unfold positionalNumeral
  dsimp only
  split
  · rename_i long
    refine .inr ⟨long, ?_, rfl⟩
    rw [Numeral.significand]
    dsimp only
    rw [List.append_assoc, Text.ofDigits_append,
      show List.replicate (point - digits.length).toNat '0' ++ ['0'] =
        List.replicate ((point - digits.length).toNat + 1) '0' from
          (List.replicate_succ' ..).symm,
      Text.ofDigits_replicate_zero, List.length_replicate, Nat.add_zero]
  · rename_i short
    split
    · rename_i before
      left
      rw [Numeral.significand, Numeral.power]
      dsimp only
      rw [List.take_append_drop, List.length_drop, Option.getD_none]
      exact ⟨rfl, by omega⟩
    · left
      rw [Numeral.significand, Numeral.power]
      dsimp only
      rw [← List.append_assoc, Text.ofDigits_append,
        show ['0'] ++ List.replicate (-point).toNat '0' =
          List.replicate ((-point).toNat + 1) '0' from rfl,
        Text.ofDigits_replicate_zero, Nat.zero_mul, Nat.zero_add, List.length_append,
        List.length_replicate, Option.getD_none]
      exact ⟨rfl, by omega⟩

end Positional

section Scientific

variable {layout : Layout} {digits : List Char}

theorem spelling_scientificNumeral (json : layout.IsJson) (negative : Bool) (digits : List Char)
    (power : Int) :
    (scientificNumeral negative digits power).spelling =
      signChars negative ++ layout.scientificChars digits power := by
  unfold scientificNumeral scientificChars
  dsimp only
  rw [if_pos json.plusSign]
  by_cases minus : power < 0
  · simp [Numeral.spelling, Numeral.fractionChars, Numeral.exponentChars, minus]
  · simp [Numeral.spelling, Numeral.fractionChars, Numeral.exponentChars, minus]

theorem spells_scientificNumeral (json : layout.IsJson) (negative : Bool)
    (run : Text.IsRun Char.isDigit digits) (leading : digits.head? ≠ some '0') (power : Int) :
    (scientificNumeral negative digits power).Spells negative
      (layout.scientificChars digits power) := by
  obtain ⟨c, others, rfl⟩ := List.exists_cons_of_ne_nil run.1
  refine ⟨spelling_scientificNumeral json negative _ power, ⟨⟨by simp [scientificNumeral],
    fun d member => run.2 d (List.mem_of_mem_take member)⟩, fun zero => absurd zero leading,
    fun d member => run.2 d (List.mem_of_mem_drop member)⟩, .inr nofun, rfl⟩

theorem significand_scientificNumeral (negative : Bool) (some : digits ≠ []) (power : Int) :
    (scientificNumeral negative digits power).significand = Text.ofDigits digits ∧
      (scientificNumeral negative digits power).power = power + 1 - digits.length := by
  have size := List.length_pos_of_ne_nil some
  rw [Numeral.significand, Numeral.power, scientificNumeral]
  dsimp only
  rw [List.take_append_drop, List.length_drop, Option.getD_some]
  exact ⟨rfl, by omega⟩

end Scientific

/-! ## Decimals -/

/-- The numeral of a positive decimal. -/
def decimalNumeral (layout : Layout) (negative : Bool) (decimal : Decimal) : Numeral :=
  let (digits, zeros) := significantDigits decimal.coefficient
  let point : Int := digits.length + zeros + decimal.exponent
  match layout.positional with
  | none => positionalNumeral negative digits point
  | some (least, greatest) =>
    if least ≤ point - 1 ∧ point - 1 ≤ greatest then
      positionalNumeral negative digits point
    else
      scientificNumeral negative digits (point - 1)

section Decimals

variable {layout : Layout} {decimal : Decimal}

theorem isRun_significantDigits {n : Nat} (nonzero : n ≠ 0) :
    Text.IsRun Char.isDigit (significantDigits n).1 :=
  ⟨significantDigits_ne_nil nonzero, fun _ => isDigit_of_mem_significantDigits⟩

theorem spells_decimalNumeral (json : layout.IsJson) (negative : Bool)
    (nonzero : decimal.coefficient ≠ 0) :
    (layout.decimalNumeral negative decimal).Spells negative (layout.decimalChars decimal) := by
  have run := isRun_significantDigits nonzero
  have leading := head?_significantDigits nonzero
  unfold decimalNumeral decimalChars
  dsimp only
  cases layout.positional with
  | none => exact spells_positionalNumeral json negative run (absurd · leading)
  | some range =>
      dsimp only
      split
      · exact spells_positionalNumeral json negative run (absurd · leading)
      · exact spells_scientificNumeral json negative run leading _

/-- The numeral of a decimal is spelled with its significant digits, or it is the numeral of a whole
number in positional form. -/
theorem significand_decimalNumeral {least greatest : Int}
    (range : layout.positional = some (least, greatest)) (negative : Bool)
    (nonzero : decimal.coefficient ≠ 0) :
    ((layout.decimalNumeral negative decimal).significand =
          Text.ofDigits (significantDigits decimal.coefficient).1 ∧
        (layout.decimalNumeral negative decimal).power =
          (significantDigits decimal.coefficient).2 + decimal.exponent) ∨
      (0 ≤ (significantDigits decimal.coefficient).2 + decimal.exponent ∧
        (significantDigits decimal.coefficient).1.length +
          (significantDigits decimal.coefficient).2 + decimal.exponent ≤ greatest + 1 ∧
        (layout.decimalNumeral negative decimal).significand =
          Text.ofDigits (significantDigits decimal.coefficient).1 *
            10 ^ (((significantDigits decimal.coefficient).2 + decimal.exponent).toNat + 1) ∧
        (layout.decimalNumeral negative decimal).power = -1) := by
  have some := significantDigits_ne_nil nonzero
  unfold decimalNumeral
  rw [range]
  generalize significantDigits decimal.coefficient = parts at some
  obtain ⟨digits, zeros⟩ := parts
  have behind : (digits.length + zeros + decimal.exponent : Int) - digits.length =
      zeros + decimal.exponent := by
    omega
  dsimp only at some ⊢
  split
  · rename_i inside
    have made := significand_positionalNumeral negative digits
      (digits.length + zeros + decimal.exponent)
    rw [behind] at made
    rcases made with usual | ⟨long, whole⟩
    · exact .inl usual
    · exact .inr ⟨by omega, by omega, whole⟩
  · left
    obtain ⟨made, power⟩ := significand_scientificNumeral negative some
      (digits.length + zeros + decimal.exponent - 1)
    exact ⟨made, by rw [power]; omega⟩

/-- The numeral of a decimal denotes it. -/
theorem value_decimalNumeral {least greatest : Int}
    (range : layout.positional = some (least, greatest)) (negative : Bool)
    (nonzero : decimal.coefficient ≠ 0) :
    ((layout.decimalNumeral negative decimal).significand *
      10 ^ (layout.decimalNumeral negative decimal).power : ℚ) = decimal.value := by
  have ten : (10 : ℚ) ≠ 0 := by norm_num
  have coefficient : (Text.ofDigits (significantDigits decimal.coefficient).1 : ℚ) *
      10 ^ (significantDigits decimal.coefficient).2 = decimal.coefficient := by
    exact_mod_cast ofDigits_significantDigits decimal.coefficient
  have value : (Text.ofDigits (significantDigits decimal.coefficient).1 : ℚ) *
      10 ^ ((significantDigits decimal.coefficient).2 + decimal.exponent : Int) =
        decimal.value := by
    rw [Decimal.value, ← coefficient, zpow_add₀ ten, zpow_natCast, mul_assoc]
  rcases significand_decimalNumeral range negative nonzero with
    ⟨made, power⟩ | ⟨whole, -, made, power⟩
  · rw [made, power, value]
  · rw [made, power, ← value]
    push_cast
    rw [pow_succ, ← zpow_natCast, Int.toNat_of_nonneg whole, zpow_neg_one]
    field_simp

/-- The digits of a numeral make up no more than the coefficient of its decimal, in powers of ten
that are no smaller; or ten times a whole number that is written positionally. -/
theorem decimalNumeral_bounds {least greatest : Int}
    (range : layout.positional = some (least, greatest)) (negative : Bool)
    (nonzero : decimal.coefficient ≠ 0) :
    ((layout.decimalNumeral negative decimal).significand ≤ decimal.coefficient ∧
        decimal.exponent ≤ (layout.decimalNumeral negative decimal).power) ∨
      (((layout.decimalNumeral negative decimal).significand : ℚ) < 10 ^ (greatest + 2) ∧
        (layout.decimalNumeral negative decimal).power = -1) := by
  have ten : (10 : ℚ) ≠ 0 := by norm_num
  rcases significand_decimalNumeral range negative nonzero with
    ⟨made, power⟩ | ⟨whole, short, made, power⟩
  · left
    rw [made, power]
    constructor
    · conv_rhs => rw [← ofDigits_significantDigits decimal.coefficient]
      exact Nat.le_mul_of_pos_right _ (Nat.pow_pos (by decide))
    · omega
  · refine .inr ⟨?_, power⟩
    have digits : (Text.ofDigits (significantDigits decimal.coefficient).1 : ℚ) <
        10 ^ ((significantDigits decimal.coefficient).1.length : Int) := by
      rw [zpow_natCast]
      exact_mod_cast ofDigits_significantDigits_lt decimal.coefficient
    rw [made]
    push_cast
    rw [pow_succ, ← zpow_natCast, Int.toNat_of_nonneg whole]
    calc _ < (10 : ℚ) ^ ((significantDigits decimal.coefficient).1.length : Int) *
          (10 ^ ((significantDigits decimal.coefficient).2 + decimal.exponent : Int) * 10) := by
          gcongr
      _ = 10 ^ ((significantDigits decimal.coefficient).1.length +
          (significantDigits decimal.coefficient).2 + decimal.exponent + 1 : Int) := by
          rw [← zpow_add_one₀ ten, ← zpow_add₀ ten]
          congr 1
          ring
      _ ≤ 10 ^ (greatest + 2) := zpow_le_zpow_right₀ (by norm_num) (by omega)

end Decimals

end PagedJoins.Layout
