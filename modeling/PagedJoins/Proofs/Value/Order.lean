import PagedJoins.Proofs.Binary.Order
import PagedJoins.Proofs.Value.ExactOrder

/-!
# The order of values of all types

Two values either are of one kind that compares exactly, or are numbers of different types that are
taken to the 64-bit format, or have no order. Exchanging the two sides exchanges the outcome in each
case, and a value that is less than another which is less than a third is less than the third. What
carries this over from exact to rounded comparisons is that rounding keeps the order of integers.
-/

namespace PagedJoins.Value

variable {a b c : Value}

/-! ## The three ways to compare -/

/-- Where a number lies when it is taken to the 64-bit format; nowhere, if it is none there. -/
def position? (value : Value) : Option ℚ :=
  value.toDouble?.bind fun x => if x = .nan then none else some x.position

/-- Two numbers that are not both integers are compared by their positions. -/
theorem sqlCompare_of_isNumeric (number : a.isNumeric = true) (number' : b.isNumeric = true)
    (mixed : a.kind ≠ .integer ∨ b.kind ≠ .integer) :
    a.sqlCompare b = a.position?.bind fun p => b.position?.map fun q => compare p q := by
  have rounded : a.sqlCompare b = a.toDouble?.bind fun x => b.toDouble?.bind fun y =>
      x.compare? y := by
    unfold sqlCompare
    split
    · exact absurd number Bool.false_ne_true
    · exact absurd number Bool.false_ne_true
    · exact absurd rfl (mixed.resolve_left (not_not.mpr rfl))
    · rw [if_pos ⟨number, number'⟩]
      rfl
  rw [rounded, position?, position?]
  cases a.toDouble? with
  | none => rfl
  | some x =>
      cases b.toDouble? with
      | none => simp
      | some y =>
          by_cases unknown : x = .nan ∨ y = .nan
          · have none : x.compare? y = none := Binary.compare?_eq_none_iff.mpr unknown
            rw [Option.bind_some, Option.bind_some, none]
            rcases unknown with rfl | rfl <;> simp
          · obtain ⟨known, known'⟩ := not_or.mp unknown
            simp [known, known', Binary.compare?_eq_position known known']

/-- Values that are neither of one exact kind nor two numbers have no order. -/
theorem sqlCompare_eq_none (different : ¬ (a.kind.isExact = true ∧ a.kind = b.kind))
    (other : ¬ (a.isNumeric = true ∧ b.isNumeric = true)) : a.sqlCompare b = none := by
  unfold sqlCompare
  split
  · exact absurd ⟨rfl, rfl⟩ different
  · exact absurd ⟨rfl, rfl⟩ different
  · exact absurd ⟨rfl, rfl⟩ different
  · exact if_neg other

/-- How two values are compared. -/
inductive Comparison (a b : Value) : Prop where
  /-- Exactly, as values of one kind. -/
  | exact (exactKind : a.kind.isExact = true) (same : a.kind = b.kind)
  /-- As numbers of the 64-bit format. -/
  | rounded (number : a.isNumeric = true) (number' : b.isNumeric = true)
      (mixed : a.kind ≠ .integer ∨ b.kind ≠ .integer)
  /-- Not at all. -/
  | none (unknown : a.sqlCompare b = Option.none) (unknown' : b.sqlCompare a = Option.none)

theorem comparison (a b : Value) : Comparison a b := by
  by_cases exactly : a.kind.isExact = true ∧ a.kind = b.kind
  · exact .exact exactly.1 exactly.2
  by_cases numbers : a.isNumeric = true ∧ b.isNumeric = true
  · refine .rounded numbers.1 numbers.2 ?_
    by_contra integers
    obtain ⟨integer, integer'⟩ := not_or.mp integers
    rw [not_not] at integer integer'
    exact exactly ⟨by rw [integer]; rfl, integer.trans integer'.symm⟩
  · refine .none (sqlCompare_eq_none exactly numbers) (sqlCompare_eq_none ?_ ?_)
    · rintro ⟨exactKind, same⟩
      exact exactly ⟨same ▸ exactKind, same.symm⟩
    · exact fun swapped => numbers swapped.symm

/-! ## Exchanging the sides -/

theorem compare_swap (p q : ℚ) : (compare p q).swap = compare q p := by
  rw [← cmp_eq_compare, ← cmp_eq_compare]
  exact cmp_swap p q

theorem sqlCompare_swap (a b : Value) : b.sqlCompare a = (a.sqlCompare b).map Ordering.swap := by
  cases comparison a b with
  | exact exactKind same =>
      rw [sqlCompare_of_isExact exactKind same, sqlCompare_of_isExact (same ▸ exactKind) same.symm]
      exact congrArg some Std.OrientedCmp.eq_swap
  | rounded number number' mixed =>
      rw [sqlCompare_of_isNumeric number number' mixed,
        sqlCompare_of_isNumeric number' number mixed.symm]
      cases a.position? with
      | none => cases b.position? <;> rfl
      | some p =>
          cases b.position? with
          | none => rfl
          | some q => exact congrArg some (compare_swap p q).symm
  | none unknown unknown' =>
      rw [unknown, unknown']
      rfl

theorem sqlCompare_self (a : Value) : a.sqlCompare a = some .eq ∨ a.sqlCompare a = none := by
  have swapped := sqlCompare_swap a a
  cases outcome : a.sqlCompare a with
  | none => exact .inr rfl
  | some ordering =>
      rw [outcome] at swapped
      cases ordering with
      | eq => exact .inl rfl
      | lt => cases swapped
      | gt => cases swapped

/-! ## Chains -/

theorem kind_eq_integer (exactKind : a.kind.isExact = true) (number : a.isNumeric = true) :
    a.kind = .integer := by
  cases a with
  | integer width n => rfl
  | null => exact absurd number Bool.false_ne_true
  | bool b => exact absurd number Bool.false_ne_true
  | text s => exact absurd number Bool.false_ne_true
  | float x => exact absurd exactKind Bool.false_ne_true
  | double x => exact absurd exactKind Bool.false_ne_true
  | decimal text => exact absurd exactKind Bool.false_ne_true

/-- Rounding keeps the order of integers. -/
theorem positions_of_integers (integer : a.kind = .integer) (integer' : b.kind = .integer) :
    ∃ p q, a.position? = some p ∧ b.position? = some q ∧
      (compareRank a b ≠ .gt → p ≤ q) := by
  cases a with
  | integer width m =>
      cases b with
      | integer width' n =>
          have known : ∀ i : Int, Binary.ofInt .double i ≠ .nan := fun i =>
            Binary.nearest_ne_nan _
          refine ⟨_, _, if_neg (known m.val), if_neg (known n.val), ?_⟩
          intro notGreater
          have less : m.val ≤ n.val := by
            have ranks : compareRank (.integer width m) (.integer width' n) = compare m.val n.val :=
              compareNumbers_singleton m.val n.val
            rw [ranks, ne_eq, compare_gt_iff_gt, not_lt] at notGreater
            exact notGreater
          rw [Binary.ofInt_eq_ofRat, Binary.ofInt_eq_ofRat]
          exact Binary.position_ofRat_mono (by decide) (Int.cast_le.mpr less)
      | _ => cases integer'
  | _ => cases integer

theorem less_cases (less : a.sqlCompare b = some .lt) :
    (a.kind.isExact = true ∧ a.kind = b.kind ∧ compareRank a b = .lt) ∨
      (a.isNumeric = true ∧ b.isNumeric = true ∧ (a.kind ≠ .integer ∨ b.kind ≠ .integer) ∧
        ∃ p q, a.position? = some p ∧ b.position? = some q ∧ p < q) := by
  cases comparison a b with
  | exact exactKind same =>
      rw [sqlCompare_of_isExact exactKind same] at less
      exact .inl ⟨exactKind, same, Option.some.inj less⟩
  | rounded number number' mixed =>
      rw [sqlCompare_of_isNumeric number number' mixed] at less
      obtain ⟨p, at_p, less⟩ := Option.bind_eq_some_iff.mp less
      obtain ⟨q, at_q, less⟩ := Option.map_eq_some_iff.mp less
      exact .inr ⟨number, number', mixed, p, q, at_p, at_q, compare_lt_iff_lt.mp less⟩
  | none unknown unknown' =>
      rw [unknown] at less
      cases less

/-- Numbers whose positions are in order are in order, also if they are integers. -/
theorem less_of_positions (number : a.isNumeric = true) (number' : b.isNumeric = true) {p q : ℚ}
    (at_p : a.position? = some p) (at_q : b.position? = some q) (less : p < q) :
    a.sqlCompare b = some .lt := by
  by_cases integers : a.kind = .integer ∧ b.kind = .integer
  · obtain ⟨integer, integer'⟩ := integers
    have exactKind : a.kind.isExact = true := by rw [integer]; rfl
    rw [sqlCompare_of_isExact exactKind (integer.trans integer'.symm)]
    by_contra notLess
    obtain ⟨q', p', at_q', at_p', kept⟩ := positions_of_integers integer' integer
    have swapped : compareRank b a = (compareRank a b).swap := Std.OrientedCmp.eq_swap
    have notGreater : compareRank b a ≠ .gt := by
      rw [swapped, ne_eq, Ordering.swap_eq_gt]
      exact fun below => notLess (congrArg some below)
    cases at_p.symm.trans at_p'
    cases at_q.symm.trans at_q'
    exact absurd (kept notGreater) (not_le.mpr less)
  · rw [sqlCompare_of_isNumeric number number' (not_and_or.mp integers), at_p, at_q]
    exact congrArg some (compare_lt_iff_lt.mpr less)

/-- What is less than a lesser value is less, however the three are compared. -/
theorem sqlCompare_lt_trans (first : a.sqlCompare b = some .lt)
    (second : b.sqlCompare c = some .lt) : a.sqlCompare c = some .lt := by
  rcases less_cases first with
    ⟨exactKind, same, ranked⟩ | ⟨number, numberB, _, p, q, at_p, at_q, less⟩
  · rcases less_cases second with ⟨_, same', ranked'⟩ | ⟨numberB, number, _, q, r, at_q, at_r, less⟩
    · rw [sqlCompare_of_isExact exactKind (same.trans same')]
      exact congrArg some (Std.TransCmp.lt_trans ranked ranked')
    · -- The first two are integers, so their positions are in order as well.
      have integerB := kind_eq_integer (same ▸ exactKind) numberB
      have integer := same.trans integerB
      obtain ⟨p, q', at_p, at_q', kept⟩ := positions_of_integers integer integerB
      cases at_q.symm.trans at_q'
      have below : p ≤ q := kept (by rw [ranked]; decide)
      exact less_of_positions (by rw [isNumeric, integer]) number at_p at_r (below.trans_lt less)
  · rcases less_cases second with
      ⟨exactKind, same, ranked⟩ | ⟨_, number', _, q', r, at_q', at_r, less'⟩
    · have integerB := kind_eq_integer exactKind numberB
      have integer := same.symm.trans integerB
      obtain ⟨q', r, at_q', at_r, kept⟩ := positions_of_integers integerB integer
      cases at_q.symm.trans at_q'
      have below : q ≤ r := kept (by rw [ranked]; decide)
      exact less_of_positions number (by rw [isNumeric, integer]) at_p at_r (less.trans_le below)
    · cases at_q.symm.trans at_q'
      exact less_of_positions number number' at_p at_r (less.trans less')

/-- The order of values of all types. Exchanging the sides of a comparison exchanges its outcome,
one that is unknown staying so, and the strict order is transitive, whether the three comparisons
are exact or rounded. -/
theorem sqlCompare_swaps_and_chains :
    (∀ a b : Value, b.sqlCompare a = (a.sqlCompare b).map Ordering.swap) ∧
      ∀ a b c : Value, a.sqlCompare b = some .lt → b.sqlCompare c = some .lt →
        a.sqlCompare c = some .lt :=
  ⟨sqlCompare_swap, fun _ _ _ => sqlCompare_lt_trans⟩

/-- Two integers past the range in which the 64-bit format has them all, and a decimal between
them: the outer comparison is exact, the two inner ones are rounded. -/
theorem sqlCompare_swaps_and_chains_mixed :
    (decimal "9007199254740991.6").sqlCompare (integer .big ⟨9007199254740991, by decide⟩) =
        some .gt ∧
      (integer .big ⟨9007199254740991, by decide⟩).sqlCompare
        (integer .big ⟨9007199254740994, by decide⟩) = some .lt := by
  obtain ⟨swap, chain⟩ := sqlCompare_swaps_and_chains
  have first : (integer .big ⟨9007199254740991, by decide⟩).sqlCompare
      (decimal "9007199254740991.6") = some .lt := by
    decide +kernel
  have second : (decimal "9007199254740991.6").sqlCompare
      (integer .big ⟨9007199254740994, by decide⟩) = some .lt := by
    decide +kernel
  refine ⟨?_, chain _ _ _ first second⟩
  rw [swap, first]
  rfl

end PagedJoins.Value
