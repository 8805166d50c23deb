import Mathlib.Data.Nat.ModEq
import PagedJoins.Proofs.Binary.ShortestDecimal

/-!
# Decimals close to a tie

The point half way between two neighbours of the 32-bit format is where their intervals meet, and a
decimal on a coarse grid does not come close to such a point unless it is that point. In units of a
common part the decimals are multiples of one number, and the points are the odd multiples of
another one. Whether a multiple falls into a window past a multiple of a modulus is decided by
exchanging the two numbers for smaller ones, as in the algorithm of Euclid, and this is done for
each power of two of the format. One decimal is closer than the others are.
-/

namespace PagedJoins.Binary

/-! ## Windows -/

/-- Does no multiple of a number, up to a greatest factor, exceed a multiple of the modulus by what
lies in a window? If no multiple of the number itself lies in the window, one that is found past a
multiple of the modulus is found past a smaller one with the two exchanged. -/
def missesWindow : (fuel : Nat) → (step modulus low high greatest : Nat) → Bool
  | 0, _, _, _, _, _ => false
  | fuel + 1, step, modulus, low, high, greatest =>
    if step * greatest < low then true
    else
      let past := (low + step - 1) / step * step
      if past ≤ high then false
      else
        missesWindow fuel (modulus % step) step (past - high) (past - low)
          ((step * greatest - low) / modulus)

theorem not_mem_of_missesWindow {fuel step modulus low high greatest : Nat}
    (positive : 0 < modulus) (some : 0 < low) (ordered : low ≤ high)
    (misses : missesWindow fuel step modulus low high greatest = true) {factor multiple : Nat}
    (bound : factor ≤ greatest) :
    ¬ (modulus * multiple + low ≤ step * factor ∧ step * factor ≤ modulus * multiple + high) := by
  induction fuel generalizing step modulus low high greatest factor multiple with
  | zero => cases misses
  | succ fuel ih =>
      rintro ⟨above, below⟩
      have most : step * factor ≤ step * greatest := Nat.mul_le_mul_left step bound
      rw [missesWindow] at misses
      split at misses
      · omega
      · rename_i reaches
        dsimp only at misses
        split at misses
        · cases misses
        · rename_i past
          have steps : 0 < step := by
            rcases Nat.eq_zero_or_pos step with rfl | steps
            · omega
            · exact steps
          have ceiling : low ≤ (low + step - 1) / step * step ∧
              (low + step - 1) / step * step < low + step := by
            have near := Nat.lt_div_mul_add (a := low + step - 1) steps
            have under := Nat.div_mul_le_self (low + step - 1) step
            omega
          generalize (low + step - 1) / step = next at misses past ceiling
          -- The multiples of the number that lie behind those of the modulus.
          have whole := Nat.div_add_mod modulus step
          have parts : modulus * multiple =
              step * (modulus / step * multiple) + modulus % step * multiple := by
            conv_lhs => rw [← whole]
            ring
          have enough : modulus / step * multiple + next ≤ factor := by
            by_contra short
            have fewer : step * (factor + 1) ≤ step * (modulus / step * multiple + next) :=
              Nat.mul_le_mul_left step (by omega)
            rw [Nat.mul_add, Nat.mul_add, Nat.mul_comm step next] at fewer
            omega
          obtain ⟨rest, rfl⟩ := Nat.exists_eq_add_of_le enough
          have product : step * (modulus / step * multiple + next + rest) =
              step * (modulus / step * multiple) + next * step + step * rest := by
            ring
          have fewer : multiple ≤ (step * greatest - low) / modulus := by
            rw [Nat.le_div_iff_mul_le positive, Nat.mul_comm]
            omega
          have mirrored : step * rest + (next * step - high) ≤ modulus % step * multiple ∧
              modulus % step * multiple ≤ step * rest + (next * step - low) := by
            constructor <;> omega
          exact ih steps (by omega) (by omega) misses fewer mirrored

/-- Nothing falls into a window but for what exceeds a multiple of the modulus by one value, if both
parts of the window about that value are missed. -/
theorem eq_of_missesWindow {fuel step modulus low high greatest exception : Nat}
    (positive : 0 < modulus) (some : 0 < low)
    (below : low < exception → missesWindow fuel step modulus low (exception - 1) greatest = true)
    (above : exception < high →
      missesWindow fuel step modulus (exception + 1) high greatest = true)
    {factor multiple : Nat} (bound : factor ≤ greatest)
    (inside : modulus * multiple + low ≤ step * factor ∧
      step * factor ≤ modulus * multiple + high) :
    step * factor = modulus * multiple + exception := by
  rcases Nat.lt_trichotomy (step * factor) (modulus * multiple + exception) with
    less | same | greater
  · have reached : low < exception := by omega
    exact absurd ⟨inside.1, by omega⟩
      (not_mem_of_missesWindow positive some (by omega) (below reached) bound)
  · exact same
  · have reached : exception < high := by omega
    exact absurd ⟨by omega, inside.2⟩
      (not_mem_of_missesWindow positive (Nat.succ_pos _) (by omega) (above reached) bound)

/-! ## Powers of two -/

/-- The finest grid whose step is no less than a power of two, but for the precision of the
logarithm. -/
def tieGrid (exponent : Int) : Int :=
  -(-exponent * 30103 / 100000)

/-- The multiple of a grid that is closer to a tie than all others of the format. -/
def closestTie : Nat := 7038531

section Grid

variable (exponent : Int)

/-- How far from a tie a decimal may be and be read as if it were past it. -/
def tieMargin : Nat :=
  gridUnit exponent (tieGrid exponent) * 8 / (5 * 2 ^ 28)

/-- The multiples of a grid that are no greater than the numbers of the format. -/
def tieBound : Nat :=
  2 ^ 25 * gridUnit exponent (tieGrid exponent) / (2 * gridStep exponent (tieGrid exponent))

/-- What a decimal near a tie exceeds a multiple of two units by: a unit, and then it is the tie; or
in one case what the closest decimal of all does. -/
def tieException : Nat :=
  if exponent = -107 then
    2 * gridStep exponent (tieGrid exponent) * closestTie %
      (2 * gridUnit exponent (tieGrid exponent))
  else
    gridUnit exponent (tieGrid exponent)

/-- Does a multiple of a grid miss the part of the margin of each tie from one value to another? -/
def missesTies (low high : Nat) : Bool :=
  missesWindow 300 (2 * gridStep exponent (tieGrid exponent))
    (2 * gridUnit exponent (tieGrid exponent)) low high (tieBound exponent)

/-- Are the multiples of a grid outside the margins of ties, but for the exceptions, and the ties no
multiples unless the power of two is among the first ones that are whole? -/
def clearsTies : Bool :=
  let unit := gridUnit exponent (tieGrid exponent)
  (tieException exponent ≤ unit - tieMargin exponent ||
      missesTies exponent (unit - tieMargin exponent) (tieException exponent - 1)) &&
    (unit + tieMargin exponent ≤ tieException exponent ||
      missesTies exponent (tieException exponent + 1) (unit + tieMargin exponent)) &&
    (exponent = -107 || (0 ≤ exponent && exponent ≤ 33) || missesTies exponent unit unit)

end Grid

/-- The grids of all the powers of two of the 32-bit format. -/
theorem clearsTies_single : ∀ i < 254, clearsTies ((i : Nat) - 149) = true := by
  decide +kernel

theorem finer_grids_single : ∀ i < 254,
    (2 ^ 26 + 1) * gridStep ((i : Nat) - 149) (tieGrid ((i : Nat) - 149) - 1) ≤
      2 ^ 26 * gridUnit ((i : Nat) - 149) (tieGrid ((i : Nat) - 149) - 1) := by
  decide +kernel

section Ties

variable {exponent : Int}

theorem clearsTies_of_single (least : -149 ≤ exponent) (greatest : exponent ≤ 104) :
    clearsTies exponent = true := by
  have clear := clearsTies_single (exponent + 149).toNat (by omega)
  rw [show ((exponent + 149).toNat : Int) - 149 = exponent by omega] at clear
  exact clear

theorem eq_tieException (least : -149 ≤ exponent) (greatest : exponent ≤ 104)
    {factor multiple : Nat} (bound : factor ≤ tieBound exponent)
    (low : 2 * gridUnit exponent (tieGrid exponent) * multiple +
        gridUnit exponent (tieGrid exponent) ≤
      2 * gridStep exponent (tieGrid exponent) * factor + tieMargin exponent)
    (high : 2 * gridStep exponent (tieGrid exponent) * factor ≤
      2 * gridUnit exponent (tieGrid exponent) * multiple +
        gridUnit exponent (tieGrid exponent) + tieMargin exponent) :
    2 * gridStep exponent (tieGrid exponent) * factor =
        2 * gridUnit exponent (tieGrid exponent) * multiple + tieException exponent ∧
      (exponent = -107 ∨ 0 ≤ exponent ∧ exponent ≤ 33) := by
  have unit := gridUnit_pos exponent (tieGrid exponent)
  have narrow : tieMargin exponent < gridUnit exponent (tieGrid exponent) := by
    rw [tieMargin]
    omega
  have clear := clearsTies_of_single least greatest
  simp only [clearsTies, Bool.and_eq_true, Bool.or_eq_true, decide_eq_true_eq] at clear
  obtain ⟨⟨below, above⟩, exact_⟩ := clear
  have below' : gridUnit exponent (tieGrid exponent) - tieMargin exponent < tieException exponent →
      missesTies exponent (gridUnit exponent (tieGrid exponent) - tieMargin exponent)
        (tieException exponent - 1) = true :=
    fun less => below.resolve_left (by omega)
  have above' : tieException exponent < gridUnit exponent (tieGrid exponent) + tieMargin exponent →
      missesTies exponent (tieException exponent + 1)
        (gridUnit exponent (tieGrid exponent) + tieMargin exponent) = true :=
    fun less => above.resolve_left (by omega)
  have same : 2 * gridStep exponent (tieGrid exponent) * factor =
      2 * gridUnit exponent (tieGrid exponent) * multiple + tieException exponent :=
    eq_of_missesWindow (by omega) (by omega) below' above' bound ⟨by omega, by omega⟩
  refine ⟨same, ?_⟩
  rcases exact_ with (close | whole) | missed
  · exact .inl close
  · exact .inr whole
  · by_cases close : exponent = -107
    · exact .inl close
    · rw [tieException, if_neg close] at same
      exact absurd ⟨same.ge, same.le⟩
        (not_mem_of_missesWindow (by omega) unit le_rfl missed bound)

theorem eq_closestTie {factor multiple : Nat} (bound : factor ≤ tieBound (-107))
    (same : 2 * gridStep (-107) (tieGrid (-107)) * factor =
      2 * gridUnit (-107) (tieGrid (-107)) * multiple + tieException (-107)) :
    factor = closestTie := by
  have odd : 5 ^ 32 ∣ 2 * gridUnit (-107) (tieGrid (-107)) := by decide +kernel
  have coprime : Nat.gcd (5 ^ 32) (2 * gridStep (-107) (tieGrid (-107))) = 1 := by decide +kernel
  have short : tieBound (-107) < 5 ^ 32 ∧ closestTie < 5 ^ 32 := by decide +kernel
  rw [tieException, if_pos rfl] at same
  have remainders : Nat.ModEq (2 * gridUnit (-107) (tieGrid (-107)))
      (2 * gridStep (-107) (tieGrid (-107)) * factor)
      (2 * gridStep (-107) (tieGrid (-107)) * closestTie) := by
    rw [Nat.ModEq, same, Nat.mul_add_mod, Nat.mod_mod]
  have cancelled : Nat.ModEq (5 ^ 32) factor closestTie :=
    (remainders.of_dvd odd).cancel_left_of_coprime coprime
  exact cancelled.eq_of_lt_of_lt (bound.trans_lt short.1) short.2

theorem le_add_tieMargin {m n : Nat}
    (close : (n - m : ℚ) ≤ 8 / (5 * 2 ^ 28) * gridUnit exponent (tieGrid exponent)) :
    n ≤ m + tieMargin exponent := by
  rw [tieMargin]
  by_contra far
  have whole := Nat.lt_div_mul_add (a := gridUnit exponent (tieGrid exponent) * 8)
    (show 0 < 5 * 2 ^ 28 by decide)
  generalize gridUnit exponent (tieGrid exponent) * 8 / (5 * 2 ^ 28) = margin at far whole
  have wide : (m : ℚ) + margin + 1 ≤ n := by exact_mod_cast not_le.mp far
  have units : (gridUnit exponent (tieGrid exponent) * 8 : ℚ) <
      margin * (5 * 2 ^ 28) + 5 * 2 ^ 28 := by
    exact_mod_cast whole
  norm_num at units close
  linarith

/-- A multiple of the grid of a power of two that is within the margin of a tie is the tie, and the
power is among the first ones that are whole; or it is the closest one. -/
theorem near_tie (least : -149 ≤ exponent) (greatest : exponent ≤ 104) {factor multiple : Nat}
    (small : (factor * 10 ^ tieGrid exponent : ℚ) ≤ 2 ^ 24 * 2 ^ exponent)
    (near : |(factor * 10 ^ tieGrid exponent : ℚ) - (multiple + 1 / 2) * 2 ^ exponent| ≤
      4 / (5 * 2 ^ 28) * 2 ^ exponent) :
    ((factor * 10 ^ tieGrid exponent : ℚ) = (multiple + 1 / 2) * 2 ^ exponent ∧
        0 ≤ exponent ∧ exponent ≤ 33) ∨
      exponent = -107 ∧ factor = closestTie := by
  obtain ⟨part, positive, step, unit⟩ := exists_common_part exponent (tieGrid exponent)
  have steps := gridStep_pos exponent (tieGrid exponent)
  obtain ⟨low, high⟩ := abs_le.mp near
  have bound : factor ≤ tieBound exponent := by
    rw [tieBound, Nat.le_div_iff_mul_le (by omega)]
    qify
    rw [step, unit]
    have scaled := mul_le_mul_of_nonneg_right small positive.le
    linarith
  have below : 2 * gridUnit exponent (tieGrid exponent) * multiple +
        gridUnit exponent (tieGrid exponent) ≤
      2 * gridStep exponent (tieGrid exponent) * factor + tieMargin exponent := by
    apply le_add_tieMargin
    push_cast
    rw [step, unit]
    have scaled := mul_le_mul_of_nonneg_right low positive.le
    linarith
  have above : 2 * gridStep exponent (tieGrid exponent) * factor ≤
      2 * gridUnit exponent (tieGrid exponent) * multiple +
        gridUnit exponent (tieGrid exponent) + tieMargin exponent := by
    apply le_add_tieMargin
    push_cast
    rw [step, unit]
    have scaled := mul_le_mul_of_nonneg_right high positive.le
    linarith
  obtain ⟨same, range⟩ := eq_tieException least greatest bound below above
  rcases range with rfl | whole
  · exact .inr ⟨rfl, eq_closestTie bound same⟩
  · refine .inl ⟨?_, whole⟩
    rw [tieException, if_neg (by omega)] at same
    have exactly : (2 * gridStep exponent (tieGrid exponent) * factor : ℚ) =
        2 * gridUnit exponent (tieGrid exponent) * multiple +
          gridUnit exponent (tieGrid exponent) := by
      exact_mod_cast same
    rw [step, unit] at exactly
    have scaled : (factor * 10 ^ tieGrid exponent : ℚ) * part =
        (multiple + 1 / 2) * 2 ^ exponent * part := by
      linarith
    exact mul_right_cancel₀ positive.ne' scaled

theorem finer_of_lt_tieGrid (least : -149 ≤ exponent) (greatest : exponent ≤ 104) {power : Int}
    (below : power < tieGrid exponent) :
    (2 ^ 26 + 1 : ℚ) * 10 ^ power ≤ 2 ^ 26 * 2 ^ exponent := by
  have finer := finer_grids_single (exponent + 149).toNat (by omega)
  rw [show ((exponent + 149).toNat : Int) - 149 = exponent by omega, steps_le_units_iff] at finer
  have powers : (10 : ℚ) ^ power ≤ 10 ^ (tieGrid exponent - 1) :=
    zpow_le_zpow_right₀ (by norm_num) (by omega)
  push_cast at finer
  linarith

end Ties

end PagedJoins.Binary
