import PagedJoins.Proofs.Binary.Rounding

/-!
# Rounding keeps order

Numbers of a format are compared by their positions on the line of the rationals, where an infinity
lies at the point at which overflow begins. Of two rationals, the lesser is not rounded past the
greater: in units of one last place that is how quotients are rounded, and where the last places
differ there is a power of two between the two. So a comparison of rounded numbers is never the
wrong way round, though numbers that differ may come out equal.
-/

namespace PagedJoins

/-! ## In units of one place -/

section Quotients

variable {numerator denominator m : Nat}

theorem le_roundDiv_iff_of_odd (positive : 0 < denominator) (odd : m % 2 = 1) :
    m ≤ roundDiv numerator denominator ↔ 2 * (m * denominator) < 2 * numerator + denominator := by
  have whole := Nat.div_add_mod' numerator denominator
  have part := Nat.mod_lt numerator positive
  have next : (numerator / denominator + 1) * denominator =
      numerator / denominator * denominator + denominator :=
    Nat.succ_mul _ _
  rcases Nat.lt_trichotomy m (numerator / denominator + 1) with below | equal | above
  · have reached : m * denominator ≤ numerator / denominator * denominator :=
      Nat.mul_le_mul_right denominator (Nat.le_of_lt_succ below)
    exact iff_of_true (le_roundDiv positive (by omega)) (by omega)
  · -- Less than half a unit is missing, since the quotient below an odd number is even.
    have even : numerator / denominator % 2 = 0 := by omega
    rw [equal, next]
    unfold roundDiv
    dsimp only
    rw [even]
    split
    · omega
    · split <;> omega
  · have missed : (numerator / denominator + 2) * denominator ≤ m * denominator :=
      Nat.mul_le_mul_right denominator above
    rw [Nat.add_mul] at missed
    refine iff_of_false ?_ (by omega)
    intro reached
    have within : roundDiv numerator denominator ≤ numerator / denominator + 1 :=
      roundDiv_le positive (by omega)
    omega

end Quotients

namespace Binary

variable {format : BinaryFormat} {numerator denominator numerator' denominator' : Nat}

theorem le_roundedAt_iff_of_odd (positive : 0 < denominator) {m : Nat} (odd : m % 2 = 1)
    (exponent : Int) :
    m ≤ roundedAt numerator denominator exponent ↔
      ((m - 1 / 2) * 2 ^ exponent : ℚ) < numerator / denominator := by
  have units : 0 < denominator * 2 ^ exponent.toNat := Nat.mul_pos positive (Nat.two_pow_pos _)
  have units' : (0 : ℚ) < (denominator * 2 ^ exponent.toNat : Nat) := by exact_mod_cast units
  rw [roundedAt_eq, le_roundDiv_iff_of_odd units odd,
    fraction_eq_units numerator denominator exponent, mul_lt_mul_iff_left₀ (by positivity),
    lt_div_iff₀ units']
  generalize denominator * 2 ^ exponent.toNat = d
  generalize numerator * 2 ^ (-exponent).toNat = n
  qify
  constructor <;> intro h <;> linarith

/-- In units of one place, the lesser of two fractions is rounded to no more than the greater. -/
theorem roundedAt_mono (positive : 0 < denominator) (positive' : 0 < denominator')
    (less : (numerator / denominator : ℚ) ≤ numerator' / denominator') (exponent : Int) :
    roundedAt numerator denominator exponent ≤ roundedAt numerator' denominator' exponent := by
  rcases Nat.mod_two_eq_zero_or_one (roundedAt numerator denominator exponent) with even | odd
  · have reached := (le_roundedAt_iff_of_even positive even exponent).mp le_rfl
    exact (le_roundedAt_iff_of_even positive' even exponent).mpr (reached.trans less)
  · have reached := (le_roundedAt_iff_of_odd positive odd exponent).mp le_rfl
    exact (le_roundedAt_iff_of_odd positive' odd exponent).mpr (reached.trans_le less)

theorem floorLog2_mono (above : 0 < numerator) (positive : 0 < denominator)
    (above' : 0 < numerator') (positive' : 0 < denominator')
    (less : (numerator / denominator : ℚ) ≤ numerator' / denominator') :
    floorLog2 numerator denominator ≤ floorLog2 numerator' denominator' := by
  have reached := (floorLog2_spec above positive).1
  have within := (floorLog2_spec above' positive').2
  have powers : (2 : ℚ) ^ floorLog2 numerator denominator <
      2 ^ (floorLog2 numerator' denominator' + 1) :=
    (reached.trans less).trans_lt within
  exact Int.lt_add_one_iff.mp ((zpow_lt_zpow_iff_right₀ one_lt_two).mp powers)

theorem lastPlace_mono (above : 0 < numerator) (positive : 0 < denominator)
    (above' : 0 < numerator') (positive' : 0 < denominator')
    (less : (numerator / denominator : ℚ) ≤ numerator' / denominator') :
    lastPlace format numerator denominator ≤ lastPlace format numerator' denominator' := by
  have logs := floorLog2_mono above positive above' positive' less
  unfold lastPlace
  dsimp only
  split <;> split <;> omega

/-! ## Magnitudes -/

/-- Of two fractions that are rounded to finite numbers, the lesser is rounded to no more than the
greater. -/
theorem magnitude_nearest_mono (sized : 0 < format.precision) (positive : 0 < denominator)
    (positive' : 0 < denominator')
    (less : (numerator / denominator : ℚ) ≤ numerator' / denominator') (negative negative' : Bool)
    (finite : (nearest format negative numerator denominator).isFinite = true)
    (finite' : (nearest format negative' numerator' denominator').isFinite = true) :
    (nearest format negative numerator denominator).magnitude ≤
      (nearest format negative' numerator' denominator').magnitude := by
  by_cases zero : numerator = 0
  · subst zero
    rw [nearest, if_pos rfl, Binary.zero, magnitude, Nat.cast_zero, zero_mul]
    exact magnitude_nonneg _
  have above : 0 < numerator := Nat.pos_of_ne_zero zero
  have above' : 0 < numerator' := by
    have start : (0 : ℚ) < numerator / denominator := by positivity
    rcases Nat.eq_zero_or_pos numerator' with rfl | above'
    · rw [Nat.cast_zero, zero_div] at less
      exact absurd (start.trans_le less) (lt_irrefl _)
    · exact above'
  rw [magnitude_nearest sized negative zero finite,
    magnitude_nearest sized negative' above'.ne' finite']
  have places : lastPlace format numerator denominator ≤ lastPlace format numerator' denominator' :=
    lastPlace_mono above positive above' positive' less
  rcases places.eq_or_lt with same | below
  · rw [same]
    have counted : (roundedAt numerator denominator (lastPlace format numerator' denominator') :
        ℚ) ≤ roundedAt numerator' denominator' (lastPlace format numerator' denominator') := by
      exact_mod_cast roundedAt_mono positive positive' less _
    exact mul_le_mul_of_nonneg_right counted (by positivity)
  · -- The lesser fraction stays within its width, the greater one fills a width that is further up.
    obtain ⟨least, -, -⟩ := lastPlace_spec format sized above positive
    obtain ⟨fits, -⟩ := roundedAt_lastPlace format sized above positive
    obtain ⟨-, fills⟩ := roundedAt_lastPlace format sized above' positive'
    have filled := fills.resolve_left (least.trans_lt below).ne'
    calc (roundedAt numerator denominator (lastPlace format numerator denominator) : ℚ) *
          2 ^ lastPlace format numerator denominator
        ≤ format.capacity * 2 ^ lastPlace format numerator denominator := by
          gcongr
      _ ≤ (2 * roundedAt numerator' denominator' (lastPlace format numerator' denominator') : Nat) *
          2 ^ (lastPlace format numerator' denominator' - 1) := by
          gcongr
          · exact one_le_two
          · omega
      _ = roundedAt numerator' denominator' (lastPlace format numerator' denominator') *
          2 ^ lastPlace format numerator' denominator' := by
          rw [zpow_sub_one₀ two_ne_zero]
          push_cast
          ring

/-! ## Positions -/

/-- Where a number lies among the rationals. An infinity lies where overflow begins, past every
finite number. -/
def position : Binary format → ℚ
  | .nan => 0
  | .infinite negative => if negative then -format.threshold else format.threshold
  | .finite negative significand exponent _ =>
    if negative then -(significand * 2 ^ exponent) else significand * 2 ^ exponent

theorem threshold_pos (format : BinaryFormat) : 0 < format.threshold := by
  have room : (1 : ℚ) ≤ format.capacity := by exact_mod_cast format.capacity_pos
  exact mul_pos (by linarith) (by positivity)

theorem position_of_isFinite {x : Binary format} (finite : x.isFinite = true) :
    x.position = if x.isNegative then -x.magnitude else x.magnitude := by
  cases x with
  | nan => cases finite
  | infinite negative => cases finite
  | finite negative significand exponent canonical => rfl

theorem abs_position_lt {x : Binary format} (finite : x.isFinite = true) :
    |x.position| < format.threshold := by
  have size : |x.position| = x.magnitude := by
    rw [position_of_isFinite finite]
    split
    · rw [abs_neg, abs_of_nonneg x.magnitude_nonneg]
    · exact abs_of_nonneg x.magnitude_nonneg
  rw [size]
  exact x.magnitude_lt_threshold

/-- The place of a finite number counts its position in units of the least positive number. -/
theorem place?_of_isFinite {x : Binary format} (finite : x.isFinite = true) :
    ∃ units : Int, x.place? = some (0, units) ∧ x.position = units * 2 ^ format.minExponent := by
  cases x with
  | nan => cases finite
  | infinite negative => cases finite
  | finite negative significand exponent canonical =>
      have scale : ((significand * Nat.pow 2 (exponent - format.minExponent).toNat : Nat) : ℚ) *
          2 ^ format.minExponent = significand * 2 ^ exponent := by
        have least : 0 ≤ exponent - format.minExponent := Int.sub_nonneg_of_le canonical.2.1
        have power : ((Nat.pow 2 (exponent - format.minExponent).toNat : Nat) : ℚ) =
            2 ^ (exponent - format.minExponent) := by
          rw [Nat.pow_eq, Nat.cast_pow, Nat.cast_two, ← zpow_natCast, Int.toNat_of_nonneg least]
        rw [Nat.cast_mul, power, mul_assoc, ← zpow_add₀ two_ne_zero, sub_add_cancel]
      refine ⟨_, rfl, ?_⟩
      rw [position, ← scale]
      cases negative <;> simp

theorem compare_units (least : Int) (i j : Int) :
    compare (i * 2 ^ least : ℚ) (j * 2 ^ least) = compare i j := by
  have grows : StrictMono fun i : Int => (i * 2 ^ least : ℚ) := by
    intro i j less
    have cast : (i : ℚ) < j := Int.cast_lt.mpr less
    exact mul_lt_mul_of_pos_right cast (by positivity)
  rw [← cmp_eq_compare, ← cmp_eq_compare]
  exact grows.cmp_map_eq i j

theorem compare?_eq_position {a b : Binary format} (number : a ≠ .nan) (number' : b ≠ .nan) :
    a.compare? b = some (compare a.position b.position) := by
  have past := threshold_pos format
  have infinite : ∀ negative : Bool, (infinite negative : Binary format).position =
      if negative then -format.threshold else format.threshold := fun _ => rfl
  by_cases finite : a.isFinite = true <;> by_cases finite' : b.isFinite = true
  · obtain ⟨i, place, counted⟩ := place?_of_isFinite finite
    obtain ⟨j, place', counted'⟩ := place?_of_isFinite finite'
    rw [compare?, place, place', counted, counted', compare_units]
    rfl
  · obtain ⟨i, place, -⟩ := place?_of_isFinite finite
    obtain ⟨lower, upper⟩ := abs_lt.mp (abs_position_lt finite)
    cases b with
    | nan => exact absurd rfl number'
    | finite => exact absurd rfl finite'
    | infinite negative =>
        rw [compare?, place, infinite]
        cases negative with
        | true => exact congrArg some (compare_gt_iff_gt.mpr lower).symm
        | false => exact congrArg some (compare_lt_iff_lt.mpr upper).symm
  · obtain ⟨j, place', -⟩ := place?_of_isFinite finite'
    obtain ⟨lower, upper⟩ := abs_lt.mp (abs_position_lt finite')
    cases a with
    | nan => exact absurd rfl number
    | finite => exact absurd rfl finite
    | infinite negative =>
        rw [compare?, place', infinite]
        cases negative with
        | true => exact congrArg some (compare_lt_iff_lt.mpr lower).symm
        | false => exact congrArg some (compare_gt_iff_gt.mpr upper).symm
  · cases a with
    | nan => exact absurd rfl number
    | finite => exact absurd rfl finite
    | infinite negative =>
        cases b with
        | nan => exact absurd rfl number'
        | finite => exact absurd rfl finite'
        | infinite negative' =>
            have wide : -format.threshold < format.threshold := by linarith
            rw [infinite, infinite]
            cases negative <;> cases negative'
            · exact congrArg some (compare_eq_iff_eq.mpr rfl).symm
            · exact congrArg some (compare_gt_iff_gt.mpr wide).symm
            · exact congrArg some (compare_lt_iff_lt.mpr wide).symm
            · exact congrArg some (compare_eq_iff_eq.mpr rfl).symm

/-- Nothing compares with what is not a number. -/
theorem compare?_eq_none_iff {a b : Binary format} :
    a.compare? b = none ↔ a = .nan ∨ b = .nan := by
  constructor
  · intro unknown
    by_contra numbers
    obtain ⟨number, number'⟩ := not_or.mp numbers
    rw [compare?_eq_position number number'] at unknown
    cases unknown
  · rintro (rfl | rfl)
    · rfl
    · cases a <;> rfl

/-! ## Rationals in order -/

/-- The number of a format that is nearest to a rational. -/
def ofRat (format : BinaryFormat) (q : ℚ) : Binary format :=
  nearest format (q < 0) q.num.natAbs q.den

theorem nearest_ne_nan (negative : Bool) :
    nearest format negative numerator denominator ≠ .nan := by
  intro other
  by_cases zero : numerator = 0
  · rw [nearest, if_pos zero] at other
    cases other
  · rw [nearest_eq negative zero] at other
    split at other
    · cases other
    · cases other

theorem position_nearest_negative (numerator denominator : Nat) :
    (nearest format true numerator denominator).position =
      -(nearest format false numerator denominator).position := by
  by_cases zero : numerator = 0
  · subst zero
    simp [nearest, Binary.zero, position]
  · rw [nearest_eq true zero, nearest_eq false zero]
    split <;> simp [position]

theorem position_nearest_nonneg (numerator denominator : Nat) :
    0 ≤ (nearest format false numerator denominator).position := by
  by_cases zero : numerator = 0
  · subst zero
    simp [nearest, Binary.zero, position]
  · rw [nearest_eq false zero]
    split
    · exact mul_nonneg (Nat.cast_nonneg _) (by positivity)
    · exact (threshold_pos format).le

/-- Of two fractions, the lesser is rounded to no more than the greater. -/
theorem position_nearest_mono (sized : 0 < format.precision) (positive : 0 < denominator)
    (positive' : 0 < denominator')
    (less : (numerator / denominator : ℚ) ≤ numerator' / denominator') :
    (nearest format false numerator denominator).position ≤
      (nearest format false numerator' denominator').position := by
  have unsigned : ∀ {n d : Nat}, (nearest format false n d).isFinite = true →
      (nearest format false n d).position = (nearest format false n d).magnitude := by
    intro n d finite
    by_cases zero : n = 0
    · subst zero
      rfl
    · rw [nearest_eq false zero] at finite ⊢
      split at finite
      · rename_i canonical
        rw [dif_pos canonical]
        rfl
      · cases finite
  by_cases finite' : (nearest format false numerator' denominator').isFinite = true
  · have finite : (nearest format false numerator denominator).isFinite = true := by
      rw [isFinite_nearest_iff format sized false positive'] at finite'
      exact (isFinite_nearest_iff format sized false positive).mpr (less.trans_lt finite')
    rw [unsigned finite, unsigned finite']
    exact magnitude_nearest_mono sized positive positive' less false false finite finite'
  · rw [nearest_eq_infinite false (eq_false_of_ne_true finite')]
    by_cases finite : (nearest format false numerator denominator).isFinite = true
    · exact (le_abs_self _).trans (abs_position_lt finite).le
    · rw [nearest_eq_infinite false (eq_false_of_ne_true finite)]

theorem abs_eq_fraction (q : ℚ) : |q| = q.num.natAbs / q.den := by
  conv_lhs => rw [← Rat.num_div_den q]
  rw [abs_div, Nat.abs_cast, Nat.cast_natAbs, Int.cast_abs]

theorem position_ofRat (format : BinaryFormat) (q : ℚ) :
    (ofRat format q).position =
      if q < 0 then -(nearest format false q.num.natAbs q.den).position
      else (nearest format false q.num.natAbs q.den).position := by
  unfold ofRat
  split
  · rename_i negative
    rw [decide_eq_true negative, position_nearest_negative]
  · rename_i other
    rw [decide_eq_false other]

/-- Of two rationals, the lesser is rounded to no more than the greater. -/
theorem position_ofRat_mono (sized : 0 < format.precision) : Monotone fun q =>
    (ofRat format q).position := by
  intro p q less
  have larger : ∀ {p q : ℚ}, |p| ≤ |q| →
      (nearest format false p.num.natAbs p.den).position ≤
        (nearest format false q.num.natAbs q.den).position := by
    intro p q less
    rw [abs_eq_fraction, abs_eq_fraction] at less
    exact position_nearest_mono sized p.den_pos q.den_pos less
  have low : 0 ≤ (nearest format false p.num.natAbs p.den).position :=
    position_nearest_nonneg p.num.natAbs p.den
  have high : 0 ≤ (nearest format false q.num.natAbs q.den).position :=
    position_nearest_nonneg q.num.natAbs q.den
  dsimp only
  rw [position_ofRat, position_ofRat]
  by_cases below : p < 0 <;> by_cases below' : q < 0
  · rw [if_pos below, if_pos below']
    apply neg_le_neg
    apply larger
    rw [abs_of_neg below, abs_of_neg below']
    exact neg_le_neg less
  · rw [if_pos below, if_neg below']
    linarith
  · exact absurd (less.trans_lt below') below
  · rw [if_neg below, if_neg below']
    apply larger
    rw [abs_of_nonneg (not_lt.mp below), abs_of_nonneg (not_lt.mp below')]
    exact less

/-- The nearest number of a fraction with a sign is that of the rational it denotes, but for the
sign of a zero. -/
theorem position_nearest (sized : 0 < format.precision) (negative : Bool)
    (positive : 0 < denominator) :
    (nearest format negative numerator denominator).position =
      (ofRat format
        (if negative then -(numerator / denominator) else numerator / denominator)).position := by
  have same : ∀ q : ℚ, |q| = numerator / denominator →
      (nearest format false q.num.natAbs q.den).position =
        (nearest format false numerator denominator).position := by
    intro q size
    rw [abs_eq_fraction] at size
    exact le_antisymm (position_nearest_mono sized q.den_pos positive size.le)
      (position_nearest_mono sized positive q.den_pos size.ge)
  have nonneg : (0 : ℚ) ≤ numerator / denominator := by positivity
  cases negative with
  | false =>
      rw [if_neg Bool.false_ne_true, position_ofRat, if_neg (not_lt.mpr nonneg),
        same _ (abs_of_nonneg nonneg)]
  | true =>
      rw [if_pos rfl, position_ofRat, position_nearest_negative]
      split
      · rw [same _ (by rw [abs_neg, abs_of_nonneg nonneg])]
      · rename_i zero
        have none : (numerator / denominator : ℚ) = 0 := by linarith
        have empty : numerator = 0 := by
          rcases div_eq_zero_iff.mp none with empty | empty
          · exact_mod_cast empty
          · exact absurd empty (by exact_mod_cast positive.ne')
        subst empty
        rw [none, neg_zero]
        simp [nearest, Binary.zero, position]

/-- The nearest number of an integer is that of the rational. -/
theorem ofInt_eq_ofRat (format : BinaryFormat) (i : Int) : ofInt format i = ofRat format i := by
  rw [ofInt, ofRat, Rat.num_intCast, Rat.den_intCast]
  congr 1
  exact decide_eq_decide.mpr Int.cast_lt_zero.symm

end Binary

end PagedJoins
