import PagedJoins.Json.Text
import PagedJoins.Json.Numeral

/-!
# Written JSON tokens

What is written as a JSON string or an integer is read back as it was. A string may hold
any character: those with an escape are restored from it, and the first quote that is not
escaped is the one that ends the string. An integer ends where its digits do, so it is
read back only in front of a character that cannot continue a number.
-/

namespace PagedJoins

namespace Text

/-! ## Decimal digits -/

@[simp] theorem ofDigits_digits (n : Nat) : ofDigits (digits n) = n :=
  Nat.ofDigitChars_ten_toDigits

theorem digits_ne_nil (n : Nat) : digits n ≠ [] :=
  Nat.toDigits_ne_nil

theorem isDigit_of_mem_digits {n : Nat} {c : Char} (member : c ∈ digits n) :
    c.isDigit = true :=
  Nat.isDigit_of_mem_toDigits (by decide) (by decide) member

theorem digitChar_ne_zero {n : Nat} (positive : 0 < n) (bound : n < 10) :
    n.digitChar ≠ '0' := by
  have each : ∀ k < 10, 0 < k → k.digitChar ≠ '0' := by decide
  exact each n bound positive

theorem head?_digits {n : Nat} (positive : 0 < n) : (digits n).head? ≠ some '0' := by
  induction n using Nat.strongRecOn with
  | ind n ih =>
      rcases Nat.lt_or_ge n 10 with small | large
      · rw [digits_of_lt small]
        intro zero
        exact digitChar_ne_zero positive small (Option.some.inj zero)
      · have shorter : n / 10 < n := by omega
        have remains : 0 < n / 10 := by omega
        rw [digits_of_ten_le large, List.head?_append, Option.or_of_isSome]
        · exact ih (n / 10) shorter remains
        · simp [List.isSome_head?, digits_ne_nil]

/-- The leading digits of a text end where its first other character stands. -/
theorem spanDigits_of_run {run rest : List Char}
    (digits : ∀ c ∈ run, c.isDigit = true)
    (ends : ∀ c, rest.head? = some c → c.isDigit = false) :
    spanDigits (run ++ rest) = (run, rest) := by
  rw [spanDigits, List.takeWhile_append_of_pos digits, List.dropWhile_append_of_pos digits]
  cases rest with
  | nil => simp
  | cons c rest =>
      have stops := ends c rfl
      simp [stops]

end Text

namespace Json

/-! ## Strings -/

theorem codeUnit?_control {n : Nat} (control : n < 0x20) :
    codeUnit? '0' '0' (hexDigit (n / 16)) (hexDigit (n % 16)) = some n := by
  have high : hexValue? (hexDigit (n / 16)) = some (n / 16) :=
    hexValue?_hexDigit (by omega)
  have low : hexValue? (hexDigit (n % 16)) = some (n % 16) :=
    hexValue?_hexDigit (by omega)
  have zero : hexValue? '0' = some 0 := by decide
  have joined : n / 16 * 16 + n % 16 = n := by omega
  simp [codeUnit?, high, low, zero, joined]

theorem ofEscape_control {c : Char} (control : c.toNat < 0x20) :
    Unit16.ofEscape c.toNat = .char c := by
  have plain : ¬ (0xD800 ≤ c.toNat ∧ c.toNat ≤ 0xDFFF) := by omega
  rw [Unit16.ofEscape, if_neg plain, Char.ofNat_toNat]

theorem readUnits_plain {c : Char} {rest : List Char} (notQuote : c ≠ '"')
    (notBackslash : c ≠ '\\') (notControl : ¬ c.toNat < 0x20) :
    readUnits (c :: rest) =
      (readUnits rest).map fun (units, after) => (.char c :: units, after) := by
  rw [readUnits.eq_def]
  split
  · contradiction
  · simp_all
  · simp_all
  · rename_i d tail _ _ same
    cases same
    rw [if_neg notQuote, if_neg (by simp [notBackslash, notControl])]
    cases readUnits rest <;> rfl

theorem readUnits_letter {letter c : Char} (rest : List Char) (short : letter ≠ 'u')
    (meaning : escaped? letter = some c) :
    readUnits ('\\' :: letter :: rest) =
      (readUnits rest).map fun (units, after) => (.char c :: units, after) := by
  cases read : readUnits rest <;> simp [readUnits, short, meaning, read]

/-- Each character of a string is read back from the way it is written. -/
theorem readUnits_escapeChar (c : Char) (rest : List Char) :
    readUnits (escapeChar c ++ rest) =
      (readUnits rest).map fun (units, after) => (.char c :: units, after) := by
  unfold escapeChar
  split
  · subst c
    exact readUnits_letter rest (by decide) rfl
  split
  · subst c
    exact readUnits_letter rest (by decide) rfl
  split
  · subst c
    exact readUnits_letter rest (by decide) rfl
  split
  · subst c
    exact readUnits_letter rest (by decide) rfl
  split
  · subst c
    exact readUnits_letter rest (by decide) rfl
  split
  · subst c
    exact readUnits_letter rest (by decide) rfl
  split
  · subst c
    exact readUnits_letter rest (by decide) rfl
  split
  · rename_i control
    cases read : readUnits rest <;>
      simp [readUnits, codeUnit?_control control, ofEscape_control control, read]
  · rename_i notQuote notBackslash _ _ _ _ _ notControl
    exact readUnits_plain notQuote notBackslash notControl

/-- A written string is read up to its closing quote. -/
theorem readUnits_written (chars rest : List Char) :
    readUnits (chars.flatMap escapeChar ++ '"' :: rest) = some (chars.map .char, rest) := by
  induction chars with
  | nil => simp [readUnits]
  | cons c chars ih =>
      rw [List.flatMap_cons, List.append_assoc, readUnits_escapeChar, ih]
      rfl

theorem text?_chars (chars : List Char) : Unit16.text? (chars.map .char) = some chars := by
  induction chars with
  | nil => rfl
  | cons c chars ih => simp [Unit16.text?, ih]

theorem toList_quote (text : String) :
    (quote text).toList = '"' :: (text.toList.flatMap escapeChar ++ ['"']) := by
  simp [quote]

/-! ## Integers -/

/-- Can a number go on with the character? -/
def continuesNumeral (c : Char) : Bool :=
  c.isDigit || c = '.' || c = 'e' || c = 'E'

/-- Does the number before the text end there? -/
def EndsNumeral (rest : List Char) : Prop :=
  ∀ c, rest.head? = some c → continuesNumeral c = false

theorem EndsNumeral.not_isDigit {rest : List Char} (ends : EndsNumeral rest) :
    ∀ c, rest.head? = some c → c.isDigit = false := by
  intro c first
  have stops := ends c first
  simp only [continuesNumeral, Bool.or_eq_false_iff] at stops
  exact stops.1.1.1

theorem readFraction?_of_ends {rest : List Char} (ends : EndsNumeral rest) :
    readFraction? rest = some ([], rest) := by
  unfold readFraction?
  split
  · have stops := ends '.' rfl
    simp [continuesNumeral] at stops
  · rfl

theorem readExponent?_of_ends {rest : List Char} (ends : EndsNumeral rest) :
    readExponent? rest = some (none, rest) := by
  cases rest with
  | nil => rfl
  | cons c rest =>
      have stops := ends c rfl
      simp only [continuesNumeral, Bool.or_eq_false_iff, decide_eq_false_iff_not] at stops
      simp [readExponent?, stops.1.2, stops.2]

theorem digits_append_ne_minus (n : Nat) (rest tail : List Char) :
    Text.digits n ++ rest ≠ '-' :: tail := by
  intro equal
  cases written : Text.digits n with
  | nil => exact Text.digits_ne_nil n written
  | cons c digits =>
      rw [written] at equal
      cases equal
      have digit : ('-' : Char).isDigit = true :=
        Text.isDigit_of_mem_digits (n := n) (by simp [written])
      simp at digit

theorem digits_wellFormed (n : Nat) :
    ¬ (Text.digits n = [] ∨
      ((Text.digits n).head? = some '0' ∧ Text.digits n ≠ ['0'])) := by
  rintro (empty | ⟨leading, longer⟩)
  · exact Text.digits_ne_nil n empty
  · rcases Nat.eq_zero_or_pos n with rfl | positive
    · exact longer rfl
    · exact Text.head?_digits positive leading

/-- The sign of a number as it is written. -/
def signChars (negative : Bool) : List Char :=
  if negative then ['-'] else []

/-- An integer is read back as its sign and its digits. -/
theorem readNumeral?_digits (negative : Bool) (n : Nat) {rest : List Char}
    (ends : EndsNumeral rest) :
    readNumeral? (signChars negative ++ Text.digits n ++ rest) =
      some (⟨negative, Text.digits n, [], none⟩, rest) := by
  have span : Text.spanDigits (Text.digits n ++ rest) = (Text.digits n, rest) :=
    Text.spanDigits_of_run (fun _ => Text.isDigit_of_mem_digits) ends.not_isDigit
  unfold readNumeral?
  split
  rename_i sign unsigned split
  have same : (sign, unsigned) = (negative, Text.digits n ++ rest) := by
    rw [← split]
    cases negative with
    | true => rfl
    | false =>
        simp only [signChars, Bool.false_eq_true, if_false, List.nil_append]
        split
        · rename_i tail equal
          exact absurd equal (digits_append_ne_minus n rest tail)
        · rfl
  cases same
  simp only [span, if_neg (digits_wellFormed n), readFraction?_of_ends ends,
    Option.bind_eq_bind, Option.bind_some, readExponent?_of_ends ends]
  rfl

theorem toList_signedDecimal (i : Int) :
    (Text.signedDecimal i).toList = signChars (decide (i < 0)) ++ Text.digits i.natAbs := by
  unfold Text.signedDecimal signChars
  split <;> simp_all

theorem toInt?_written (i : Int) :
    (⟨decide (i < 0), Text.digits i.natAbs, [], none⟩ : Numeral).toInt? = some i := by
  simp only [Numeral.toInt?, and_self, if_true, Text.ofDigits_digits]
  split
  · rename_i negative
    have negative : i < 0 := of_decide_eq_true negative
    rw [if_neg (by omega)]
    congr 1
    omega
  · rename_i notNegative
    have notNegative : ¬ i < 0 := by simpa using notNegative
    congr 1
    omega

end Json

end PagedJoins
