import PagedJoins.Proofs.Json.Layout

/-!
# The numbers that are written

A finite number is written for JSON as a numeral that denotes a decimal near it. The digits of the
numeral make up a number of few more bits than the significand has, and its power of ten is not far
out of reach, whatever the number is.
-/

namespace PagedJoins.Layout

open Json Binary

/-- The numeral of a finite number. -/
def numeral (layout : Layout) (format : BinaryFormat) (negative : Bool) (significand : Nat)
    (exponent : Int) : Numeral :=
  if significand = 0 then
    positionalNumeral negative ['0'] 1
  else
    layout.decimalNumeral negative (shortest format layout.ties significand exponent)

section Decimals

variable {layout : Layout} {format : BinaryFormat} {significand : Nat} {exponent : Int}
  {decimal : Decimal} {least greatest : Int}

/-- The digits of a written number make up no number that is much larger than its significand, or
one that is short enough to be written positionally. -/
theorem significand_decimalNumeral_lt (range : layout.positional = some (least, greatest))
    (negative : Bool) (nonzero : significand ≠ 0)
    (writes : Writes format significand exponent decimal) (bound : Nat)
    (wide : 40 * significand + 20 < bound) (long : (10 : ℚ) ^ (greatest + 2) ≤ bound) :
    (layout.decimalNumeral negative decimal).significand < bound := by
  rcases decimalNumeral_bounds range negative (writes.coefficient_ne_zero nonzero) with
    ⟨few, -⟩ | ⟨short, -⟩
  · exact (few.trans (writes.coefficient_le nonzero)).trans_lt wide
  · exact_mod_cast short.trans_le long

theorem significand_decimalNumeral_ne_zero (range : layout.positional = some (least, greatest))
    (negative : Bool) (nonzero : significand ≠ 0)
    (writes : Writes format significand exponent decimal) :
    (layout.decimalNumeral negative decimal).significand ≠ 0 := by
  intro none
  have value := value_decimalNumeral range negative (writes.coefficient_ne_zero nonzero)
  rw [none, Nat.cast_zero, zero_mul] at value
  exact (writes.value_pos nonzero).ne value

/-- The power of ten of a written number is not far below the number's power of two. -/
theorem le_power_decimalNumeral (range : layout.positional = some (least, greatest))
    (negative : Bool) (nonzero : significand ≠ 0)
    (writes : Writes format significand exponent decimal) {p q : Nat}
    (least : -(q : Int) ≤ exponent - 2) (fits : 28 * q ≤ 93 * p) :
    -(p + 1 : Int) ≤ (layout.decimalNumeral negative decimal).power := by
  have lower := writes.le_exponent least fits
  rcases decimalNumeral_bounds range negative (writes.coefficient_ne_zero nonzero) with
    ⟨-, above⟩ | ⟨-, tenth⟩
  · exact lower.trans above
  · omega

/-- The power of ten of a written number is no greater than the number. -/
theorem power_decimalNumeral_lt (range : layout.positional = some (least, greatest))
    (negative : Bool) (nonzero : significand ≠ 0)
    (writes : Writes format significand exponent decimal) {p q : Nat}
    (below : decimal.value < 2 ^ q) (fits : 28 * q ≤ 93 * p) :
    (layout.decimalNumeral negative decimal).power < p := by
  have value := value_decimalNumeral range negative (writes.coefficient_ne_zero nonzero)
  have some : (1 : ℚ) ≤ (layout.decimalNumeral negative decimal).significand := by
    exact_mod_cast Nat.one_le_iff_ne_zero.mpr
      (significand_decimalNumeral_ne_zero range negative nonzero writes)
  have powers : (10 : ℚ) ^ (layout.decimalNumeral negative decimal).power < 10 ^ (p : Int) := by
    calc (10 : ℚ) ^ (layout.decimalNumeral negative decimal).power
        ≤ decimal.value := by
          rw [← value]
          exact le_mul_of_one_le_left (by positivity) some
      _ < 2 ^ q := below
      _ ≤ 10 ^ (p : Int) := by
          rw [zpow_natCast]
          exact two_pow_le_ten_pow_cast fits
  exact (zpow_lt_zpow_iff_right₀ (by norm_num)).mp powers

end Decimals

theorem spells_zero {layout : Layout} (json : layout.IsJson) (negative : Bool) :
    (positionalNumeral negative ['0'] 1).Spells negative (layout.positionalChars ['0'] 1) :=
  spells_positionalNumeral json negative
    ⟨List.cons_ne_nil _ _, List.forall_mem_singleton.mpr (by decide)⟩ fun _ => ⟨rfl, rfl⟩

theorem spells_numeral {layout : Layout} (json : layout.IsJson) (format : BinaryFormat)
    (negative : Bool) {significand : Nat} {exponent : Int} (narrow : significand < Nat.pow 2 53)
    (least : -1074 ≤ exponent) (greatest : exponent ≤ 971) :
    (layout.numeral format negative significand exponent).Spells negative
      (layout.magnitudeChars format significand exponent) := by
  unfold numeral magnitudeChars
  split
  · exact spells_zero json negative
  · rename_i nonzero
    exact spells_decimalNumeral json negative
      (shortest_coefficient_ne_zero nonzero narrow least greatest)

theorem isJson_jsonSingle : jsonSingle.IsJson := ⟨rfl, rfl⟩

theorem isJson_jsonDouble : jsonDouble.IsJson := ⟨rfl, rfl⟩

/-! ## Reading -/

/-- What is written as a number is read as it is worked out in the 64-bit format. -/
theorem toBinary?_of_scaled? {numeral : Numeral} {negative : Bool} {chars : List Char}
    (spells : numeral.Spells negative chars) (fits : numeral.significand ≤ maxSignificand)
    {y : Binary .double}
    (read : scaled? negative numeral.significand numeral.power = some y) (format : BinaryFormat) :
    numeral.toBinary? format = some (y.convert format) := by
  rw [Numeral.toBinary?_of_not_isWord (Numeral.not_isWord_of_decimal spells.decimal),
    Numeral.toDouble?_of_fits spells.decimal fits, spells.sign, read, Option.map_some]

theorem toBinary?_zero {layout : Layout} (json : layout.IsJson) (format : BinaryFormat)
    (negative : Bool) (exponent : Int) :
    (layout.numeral format negative 0 exponent).toBinary? format = some (zero negative) := by
  have read : scaled? negative 0 (-1) = some (zero negative) := by
    rw [scaled?]
    dsimp only
    rw [if_pos rfl, nearest, if_pos rfl]
  have made : (positionalNumeral negative ['0'] 1).toBinary? format =
      some ((zero negative : Binary .double).convert format) :=
    toBinary?_of_scaled? (spells_zero json negative) (Nat.zero_le _) read format
  rw [numeral, if_pos rfl, made]
  rfl

end PagedJoins.Layout
