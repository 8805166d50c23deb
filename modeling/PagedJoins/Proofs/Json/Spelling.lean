import PagedJoins.Proofs.Json.Numeral
import PagedJoins.Proofs.Json.Reading
import PagedJoins.Proofs.Text.Numeral

/-!
# Spelled numbers

A number that is spelled with a sign, a whole part, a fraction and an exponent is read back as
these parts, in front of a character that cannot continue it. If it has a fraction or an exponent,
and all of its digits together fit 64 bits, its value is worked out from the number that they make
up and one power of ten.
-/

namespace PagedJoins.Json

namespace Numeral

/-- The number that the digits of a numeral make up. -/
def significand (numeral : Numeral) : Nat :=
  Text.ofDigits (numeral.whole ++ numeral.fraction)

/-- The power of ten that the digits of a numeral count. -/
def power (numeral : Numeral) : Int :=
  numeral.exponent.getD 0 - numeral.fraction.length

/-- A fraction is written behind a point. -/
def fractionChars (fraction : List Char) : List Char :=
  if fraction = [] then [] else '.' :: fraction

/-- An exponent is always written with a sign. -/
def exponentChars : Option Int → List Char
  | none => []
  | some i => 'e' :: (if i < 0 then '-' else '+') :: Text.digits i.natAbs

/-- The characters of a numeral. -/
def spelling (numeral : Numeral) : List Char :=
  signChars numeral.negative ++
    (numeral.whole ++ (fractionChars numeral.fraction ++ exponentChars numeral.exponent))

/-- A numeral as JSON has it, whose whole part has no leading zero. -/
structure WellFormed (numeral : Numeral) : Prop where
  whole : Text.IsRun Char.isDigit numeral.whole
  leading : numeral.whole.head? = some '0' → numeral.whole = ['0']
  fraction : ∀ c ∈ numeral.fraction, c.isDigit = true

/-- A numeral with a fraction or an exponent that is written with a sign and these characters. -/
structure Spells (numeral : Numeral) (negative : Bool) (chars : List Char) : Prop where
  spelled : numeral.spelling = signChars negative ++ chars
  wellFormed : numeral.WellFormed
  decimal : numeral.fraction ≠ [] ∨ numeral.exponent ≠ none
  sign : numeral.negative = negative

end Numeral

open Numeral

variable {rest : List Char}

/-! ## Parts -/

theorem readExponent?_written (exponent : Option Int) (ends : EndsNumeral rest) :
    readExponent? (exponentChars exponent ++ rest) = some (exponent, rest) := by
  cases exponent with
  | none => exact readExponent?_of_ends ends
  | some i =>
      have span : Text.spanDigits (Text.digits i.natAbs ++ rest) = (Text.digits i.natAbs, rest) :=
        Text.spanDigits_of_run (fun _ => Text.isDigit_of_mem_digits) ends.not_isDigit
      have digits := Text.digits_ne_nil i.natAbs
      by_cases negative : i < 0
      · have value : -|i| = i := by rw [abs_of_neg negative, Int.neg_neg]
        simp [exponentChars, readExponent?, negative, span, digits, value]
      · have value : |i| = i := abs_of_nonneg (not_lt.mp negative)
        simp [exponentChars, readExponent?, negative, span, digits, value]

theorem head?_exponentChars (exponent : Option Int) (ends : EndsNumeral rest) :
    ∀ c, (exponentChars exponent ++ rest).head? = some c → c.isDigit = false ∧ c ≠ '.' := by
  intro c first
  cases exponent with
  | none =>
      have stops := ends c first
      simp only [continuesNumeral, Bool.or_eq_false_iff, decide_eq_false_iff_not] at stops
      exact stops.1.1
  | some i =>
      cases first
      decide

theorem readFraction?_written {fraction : List Char} (digits : ∀ c ∈ fraction, c.isDigit = true)
    (stops : ∀ c, rest.head? = some c → c.isDigit = false ∧ c ≠ '.') :
    readFraction? (fractionChars fraction ++ rest) = some (fraction, rest) := by
  by_cases none : fraction = []
  · subst none
    rw [fractionChars, if_pos rfl, List.nil_append]
    unfold readFraction?
    split
    · exact absurd rfl (stops '.' rfl).2
    · rfl
  · have span : Text.spanDigits (fraction ++ rest) = (fraction, rest) :=
      Text.spanDigits_of_run digits fun c first => (stops c first).1
    rw [fractionChars, if_neg none, List.cons_append]
    simp [readFraction?, span, none]

theorem head?_fractionChars (fraction : List Char)
    (stops : ∀ c, rest.head? = some c → c.isDigit = false ∧ c ≠ '.') :
    ∀ c, (fractionChars fraction ++ rest).head? = some c → c.isDigit = false := by
  intro c first
  rw [fractionChars] at first
  split at first
  · exact (stops c first).1
  · cases first
    rfl

/-! ## Numerals -/

/-- A spelled number is read back, with what follows it. -/
theorem readNumeral?_spelling {numeral : Numeral} (wellFormed : numeral.WellFormed)
    (ends : EndsNumeral rest) :
    readNumeral? (numeral.spelling ++ rest) = some (numeral, rest) := by
  obtain ⟨negative, whole, fraction, exponent⟩ := numeral
  obtain ⟨run, leading, digits⟩ := wellFormed
  dsimp only at run leading digits
  have stops := head?_exponentChars exponent ends
  have span : Text.spanDigits
      (whole ++ (fractionChars fraction ++ (exponentChars exponent ++ rest))) =
        (whole, fractionChars fraction ++ (exponentChars exponent ++ rest)) :=
    Text.spanDigits_of_run run.2 (head?_fractionChars fraction stops)
  have written : (spelling ⟨negative, whole, fraction, exponent⟩) ++ rest =
      signChars negative ++
        (whole ++ (fractionChars fraction ++ (exponentChars exponent ++ rest))) := by
    simp [spelling]
  have short : ¬ (whole = [] ∨ (whole.head? = some '0' ∧ whole ≠ ['0'])) := by
    rintro (empty | ⟨zero, longer⟩)
    · exact run.1 empty
    · exact longer (leading zero)
  rw [written]
  unfold readNumeral?
  split
  rename_i sign unsigned split
  have same : (sign, unsigned) =
      (negative, whole ++ (fractionChars fraction ++ (exponentChars exponent ++ rest))) := by
    rw [← split]
    cases negative with
    | true => rfl
    | false =>
        obtain ⟨c, others, rfl⟩ := List.exists_cons_of_ne_nil run.1
        have digit := run.2 c (List.mem_cons_self ..)
        dsimp only [signChars]
        split
        · rename_i equal
          cases equal
          cases digit
        · rfl
  cases same
  rw [span]
  dsimp only
  rw [if_neg short, readFraction?_written digits stops]
  change ((readExponent? (exponentChars exponent ++ rest)).bind fun part => _) = _
  rw [readExponent?_written exponent ends]
  rfl

theorem spelling_starts {numeral : Numeral} (wellFormed : numeral.WellFormed) :
    ∃ c tail, numeral.spelling = c :: tail ∧ Reader.isSpace c = false := by
  obtain ⟨negative, whole, fraction, exponent⟩ := numeral
  cases negative with
  | true => exact ⟨'-', _, rfl, by decide⟩
  | false =>
      obtain ⟨run, -, -⟩ := wellFormed
      dsimp only at run
      obtain ⟨c, others, rfl⟩ := List.exists_cons_of_ne_nil run.1
      have digit := run.2 c (List.mem_cons_self ..)
      refine ⟨c, _, rfl, ?_⟩
      cases space : Reader.isSpace c with
      | false => rfl
      | true =>
          simp only [Reader.isSpace, Bool.or_eq_true, decide_eq_true_eq] at space
          rcases space with ((rfl | rfl) | rfl) | rfl <;> exact absurd digit (by decide)

/-- A spelled number is read back, if it does not go on behind it. -/
theorem run_numeral_spelling {numeral : Numeral} (wellFormed : numeral.WellFormed)
    (ends : EndsNumeral rest) :
    Reader.numeral.run (numeral.spelling ++ rest) = .ok (numeral, rest) := by
  have read := readNumeral?_spelling wellFormed ends
  obtain ⟨c, tail, starts, solid⟩ := spelling_starts wellFormed
  rw [Reader.numeral]
  rw [starts, List.cons_append] at read ⊢
  rw [Reader.run_bind_of_ok (Reader.run_space solid _)]
  exact Reader.run_ofSplit read

/-! ## Values -/

namespace Numeral

variable {numeral : Numeral}

/-- A number with a fraction or an exponent spells no integer. -/
theorem not_isWord_of_decimal (decimal : numeral.fraction ≠ [] ∨ numeral.exponent ≠ none) :
    ¬ numeral.IsWord := by
  rintro ⟨i, spelled, -⟩
  obtain ⟨whole, unscaled, -⟩ := toInt?_eq_some spelled
  exact decimal.elim (· whole) (· unscaled)

/-- A number whose digits fit 64 bits is worked out from all of them. -/
theorem toDouble?_of_fits (decimal : numeral.fraction ≠ [] ∨ numeral.exponent ≠ none)
    (fits : numeral.significand ≤ maxSignificand) :
    numeral.toDouble? = scaled? numeral.negative numeral.significand numeral.power := by
  have joined : numeral.significand =
      numeral.fraction.foldl (fun value c => 10 * value + Text.digitValue c)
        (Text.ofDigits numeral.whole) :=
    List.foldl_append
  have whole : gather 0 numeral.whole = (Text.ofDigits numeral.whole, []) :=
    gather_of_fits ((le_foldl_digits _ _).trans (joined.symm.trans_le fits))
  have all : gather (Text.ofDigits numeral.whole) numeral.fraction =
      (numeral.significand, []) := by
    rw [joined]
    exact gather_of_fits (joined.symm.trans_le fits)
  have other : ¬ (([] : List Char) = [] ∧ numeral.fraction = [] ∧ numeral.exponent = none) :=
    fun plain => decimal.elim (· plain.2.1) (· plain.2.2)
  have places : (([] : List Char).length : Int) -
      (numeral.fraction.length - ([] : List Char).length) + numeral.exponent.getD 0 =
        numeral.power := by
    rw [power, List.length_nil]
    omega
  rw [toDouble?, whole]
  dsimp only
  rw [if_neg other, all]
  dsimp only
  rw [places]

end Numeral

end PagedJoins.Json
