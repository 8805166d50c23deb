import PagedJoins.Proofs.Binary.Numeral
import PagedJoins.Proofs.Value.Order

/-!
# The order of exact numbers

Integers and decimals denote rationals of any precision. Two integers compare as these do. As soon
as a decimal is among two numbers both are rounded to the 64-bit format, so two that are rounded
alike compare as equal, and any others in the order of the rationals: no two compare the wrong way
round.
Values that compare as equal compare alike with a third one, unless one of them is an integer that
is compared with the third exactly, and the other is not.
-/

namespace PagedJoins.Value

variable {a b c : Value} {p q : ℚ}

/-- The rational that an exact number denotes. -/
inductive Denotes : Value → ℚ → Prop where
  | integer {width : IntWidth} (n : SizedInt width) : Denotes (.integer width n) n.val
  | decimal {text : String} {q : ℚ} (numeral : Text.Denotes text.toList q) :
      Denotes (.decimal text) q

/-- Are two rationals rounded to one number of the 64-bit format? -/
def RoundAlike (p q : ℚ) : Prop :=
  (Binary.ofRat .double p).position = (Binary.ofRat .double q).position

instance (p q : ℚ) : Decidable (RoundAlike p q) :=
  inferInstanceAs (Decidable (_ = _))

/-! ## Rounded rationals -/

/-- An exact number lies where its rational is rounded to. -/
theorem position?_of_denotes (denotes : a.Denotes p) :
    a.position? = some (Binary.ofRat .double p).position := by
  cases denotes with
  | integer n =>
      rw [← Binary.ofInt_eq_ofRat]
      exact if_neg (Binary.nearest_ne_nan _)
  | decimal numeral =>
      obtain ⟨x, read, number, rounded⟩ := Binary.ofText?_of_denotes numeral
      rw [position?, toDouble?, read, Option.bind_some, if_neg number, rounded]

theorem isNumeric_of_denotes (denotes : a.Denotes p) : a.isNumeric = true := by
  cases denotes with
  | integer n => rfl
  | decimal numeral => rfl

/-- Rationals that are not rounded alike stay in order. -/
theorem compare_rounded (p q : ℚ) :
    compare (Binary.ofRat .double p).position (Binary.ofRat .double q).position =
      if RoundAlike p q then .eq else compare p q := by
  have kept : ∀ {p q : ℚ}, p ≤ q →
      (Binary.ofRat .double p).position ≤ (Binary.ofRat .double q).position :=
    fun less => Binary.position_ofRat_mono (by decide) less
  split
  · rename_i alike
    exact compare_eq_iff_eq.mpr alike
  · rename_i apart
    rcases lt_trichotomy p q with less | rfl | greater
    · rw [compare_lt_iff_lt.mpr less]
      exact compare_lt_iff_lt.mpr ((kept less.le).lt_of_ne apart)
    · exact absurd rfl apart
    · rw [compare_gt_iff_gt.mpr greater]
      exact compare_gt_iff_gt.mpr ((kept greater.le).lt_of_ne (Ne.symm apart))

/-- Rationals that the format has are not rounded alike unless they are one. -/
theorem eq_of_roundAlike {x y : Binary .double} (finite : x.isFinite = true)
    (finite' : y.isFinite = true) (alike : RoundAlike x.position y.position) :
    x.position = y.position := by
  rw [RoundAlike, Binary.position_ofRat_position (by decide) finite,
    Binary.position_ofRat_position (by decide) finite'] at alike
  exact alike

/-- The order of two exact numbers. -/
theorem sqlCompare_of_denotes (first : a.Denotes p) (second : b.Denotes q) :
    a.sqlCompare b =
      some (if (a.kind = .integer ∧ b.kind = .integer) ∨ ¬ RoundAlike p q then compare p q
        else .eq) := by
  by_cases integers : a.kind = .integer ∧ b.kind = .integer
  · rw [if_pos (.inl integers)]
    cases first with
    | integer m =>
        cases second with
        | integer n =>
            rw [← cmp_eq_compare, Int.cast_strictMono.cmp_map_eq, cmp_eq_compare]
            rfl
        | decimal numeral => cases integers.2
    | decimal numeral => cases integers.1
  · rw [sqlCompare_of_isNumeric (isNumeric_of_denotes first) (isNumeric_of_denotes second)
      (not_and_or.mp integers), position?_of_denotes first, position?_of_denotes second,
      Option.bind_some, Option.map_some, compare_rounded]
    by_cases alike : RoundAlike p q
    · rw [if_pos alike, if_neg (not_or.mpr ⟨integers, not_not.mpr alike⟩)]
    · rw [if_neg alike, if_pos (.inr alike)]

/-! ## Third values -/

theorem isNumeric_congr (same : a.kind = b.kind) : a.isNumeric = b.isNumeric := by
  rw [isNumeric, isNumeric, same]

theorem sqlCompare_congr_of_rank (exactKind : a.kind.isExact = true) (same : a.kind = b.kind)
    (equal : compareRank a b = .eq) (c : Value) : a.sqlCompare c = b.sqlCompare c := by
  by_cases one : a.kind = c.kind
  · rw [sqlCompare_of_isExact exactKind one, sqlCompare_of_isExact (same ▸ exactKind) (same ▸ one)]
    exact congrArg some (Std.TransCmp.congr_left equal)
  by_cases numbers : a.isNumeric = true ∧ c.isNumeric = true
  · obtain ⟨number, numberC⟩ := numbers
    have integer := kind_eq_integer exactKind number
    have integerB := same.symm.trans integer
    have other : c.kind ≠ .integer := fun integerC => one (integer.trans integerC.symm)
    obtain ⟨p, q, at_p, at_q, less⟩ := positions_of_integers integer integerB
    obtain ⟨q', p', at_q', at_p', greater⟩ := positions_of_integers integerB integer
    cases at_p.symm.trans at_p'
    cases at_q.symm.trans at_q'
    have swapped : compareRank b a = .eq := by
      have mirrored : compareRank b a = (compareRank a b).swap := Std.OrientedCmp.eq_swap
      rw [mirrored, equal]
      rfl
    have there : p = q :=
      le_antisymm (less (by rw [equal]; decide)) (greater (by rw [swapped]; decide))
    rw [sqlCompare_of_isNumeric number numberC (.inr other),
      sqlCompare_of_isNumeric (isNumeric_congr same ▸ number) numberC (.inr other), at_p, at_q,
      there]
  · rw [sqlCompare_eq_none (fun exactly => one exactly.2) numbers,
      sqlCompare_eq_none (fun exactly => one (same.trans exactly.2))
        (fun numbers' => numbers (isNumeric_congr same ▸ numbers'))]

theorem sqlCompare_congr_of_position (number : a.isNumeric = true) (number' : b.isNumeric = true)
    (same : a.position? = b.position?) (first : a.kind ≠ .integer ∨ c.kind ≠ .integer)
    (second : b.kind ≠ .integer ∨ c.kind ≠ .integer) : a.sqlCompare c = b.sqlCompare c := by
  by_cases numberC : c.isNumeric = true
  · rw [sqlCompare_of_isNumeric number numberC first,
      sqlCompare_of_isNumeric number' numberC second, same]
  · have none : ∀ {d : Value}, d.isNumeric = true → d.sqlCompare c = Option.none := by
      intro d numberD
      refine sqlCompare_eq_none ?_ fun numbers => numberC numbers.2
      exact fun exactly => numberC (isNumeric_congr exactly.2 ▸ numberD)
    rw [none number, none number']

/-- Values that compare as equal compare alike with a third one, if they are of one kind or the
third is no integer. -/
theorem sqlCompare_congr (equal : a.sqlCompare b = some .eq)
    (alike : a.kind = b.kind ∨ c.kind ≠ .integer) : a.sqlCompare c = b.sqlCompare c := by
  cases comparison a b with
  | exact exactKind same =>
      rw [sqlCompare_of_isExact exactKind same] at equal
      exact sqlCompare_congr_of_rank exactKind same (Option.some.inj equal) c
  | rounded number number' mixed =>
      rw [sqlCompare_of_isNumeric number number' mixed] at equal
      obtain ⟨p, at_p, equal⟩ := Option.bind_eq_some_iff.mp equal
      obtain ⟨q, at_q, equal⟩ := Option.map_eq_some_iff.mp equal
      have there : a.position? = b.position? := by
        rw [at_p, at_q, compare_eq_iff_eq.mp equal]
      rcases alike with same | other
      · have float : a.kind ≠ .integer := mixed.elim id fun other => same ▸ other
        exact sqlCompare_congr_of_position number number' there (.inl float) (.inl (same ▸ float))
      · exact sqlCompare_congr_of_position number number' there (.inr other) (.inr other)
  | none unknown unknown' =>
      rw [unknown] at equal
      cases equal

/-! ## Exact numbers -/

/-- Exact numbers compare in the order of the rationals that they denote, but for those that a
decimal is among and that are rounded alike, which compare as equal. So numbers that the 64-bit
format has all compare exactly; and of values that compare as equal, both compare alike with every
third one, if they are of one kind or the third is no integer. -/
theorem sqlCompare_rounds_with_decimals (first : a.Denotes p) (second : b.Denotes q) :
    a.sqlCompare b =
        some (if (a.kind = .integer ∧ b.kind = .integer) ∨ ¬ RoundAlike p q then compare p q
          else .eq) ∧
      ((∃ x y : Binary .double, x.isFinite = true ∧ x.position = p ∧ y.isFinite = true ∧
          y.position = q) → a.sqlCompare b = some (compare p q)) ∧
      (a.sqlCompare b = some .eq → ∀ c : Value, a.kind = b.kind ∨ c.kind ≠ .integer →
        a.sqlCompare c = b.sqlCompare c) := by
  refine ⟨sqlCompare_of_denotes first second, ?_, fun equal c => sqlCompare_congr equal⟩
  rintro ⟨x, y, finite, rfl, finite', rfl⟩
  rw [sqlCompare_of_denotes first second]
  split
  · rfl
  · rename_i rounded
    have alike := not_not.mp (not_or.mp rounded).2
    exact congrArg some (compare_eq_iff_eq.mpr (eq_of_roundAlike finite finite' alike)).symm

/-- A large integer and a decimal of a fraction, which are not rounded alike. -/
theorem sqlCompare_rounds_with_decimals_mixed :
    Denotes (.integer .big ⟨9007199254740993, by decide⟩) 9007199254740993 ∧
      Denotes (.decimal "-9007199254740994.50") (-(9007199254740994 + 50 / 10 ^ 2)) ∧
      (decimal "-9007199254740994.50").sqlCompare (.integer .big ⟨9007199254740993, by decide⟩) =
        some .lt := by
  have integral : Denotes (.integer .big ⟨9007199254740993, by decide⟩) 9007199254740993 :=
    .integer _
  have whole : Text.IsRun Char.isDigit "9007199254740994".toList := by decide +kernel
  have fraction : Text.IsRun Char.isDigit "50".toList := by decide +kernel
  have fractional : Denotes (.decimal "-9007199254740994.50") (-(9007199254740994 + 50 / 10 ^ 2)) :=
    .decimal (.minus (.fraction whole fraction))
  refine ⟨integral, fractional, ?_⟩
  rw [(sqlCompare_rounds_with_decimals fractional integral).1]
  decide +kernel

/-- A decimal compares as equal with an integer that is not the number it denotes. -/
theorem sqlCompare_decimal_not_exact :
    ¬ ∀ (a b : Value) (p q : ℚ), a.Denotes p → b.Denotes q →
      a.sqlCompare b = some (compare p q) := by
  intro exactly
  have integral : Denotes (.integer .big ⟨9007199254740993, by decide⟩) 9007199254740993 :=
    .integer _
  have run : Text.IsRun Char.isDigit "9007199254740992".toList := by decide +kernel
  have whole : Denotes (.decimal "9007199254740992") 9007199254740992 :=
    .decimal (.bare (.whole run))
  have outcome := exactly _ _ _ _ integral whole
  revert outcome
  decide +kernel

end PagedJoins.Value
