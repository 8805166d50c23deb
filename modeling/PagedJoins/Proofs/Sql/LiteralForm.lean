import PagedJoins.Proofs.Sql.Literal
import PagedJoins.Proofs.Sql.Quoting

/-!
# What stands outside quotes

A literal is a keyword, a numeral, a string, or a string with the type of a timestamp before it.
All that a value brings into a statement without quotes are hence digits, but they are the digits
of any script: a numeral in digits that are not those of ASCII stays as it is, although it is no
numeral of SQL.
-/

namespace PagedJoins

namespace Dialect

/-! ## Forms -/

/-- The forms of a literal, if these are the digits. -/
inductive IsLiteral (digit : Char → Bool) (dialect : Dialect) : List Char → Prop where
  | keyword {word : String} (known : word ∈ ["NULL", "TRUE", "FALSE"]) :
      IsLiteral digit dialect word.toList
  | numeral {chars : List Char} (digits : Text.IsNumeral digit chars) :
      IsLiteral digit dialect chars
  | string {chars content : List Char} (read : dialect.scanLiteral chars = some (content, [])) :
      IsLiteral digit dialect chars
  | timestamp {quoted content : List Char} (typed : dialect = .oracle)
      (read : dialect.scanLiteral quoted = some (content, []))
      (stamp : Shape.IsTimestampContent digit content) :
      IsLiteral digit dialect ("TIMESTAMP ".toList ++ quoted)

variable {dialect : Dialect} {digit : Char → Bool}

theorem scanLiteral_stringLiteral_whole (dialect : Dialect) (content : List Char) :
    dialect.scanLiteral (dialect.stringLiteral content).toList = some (content, []) := by
  have read : dialect.scanLiteral ((dialect.stringLiteral content).toList ++ []) =
      some (content, []) :=
    scanLiteral_stringLiteral content nofun
  rwa [List.append_nil] at read

theorem isLiteral_stringLiteral (content : List Char) :
    IsLiteral digit dialect (dialect.stringLiteral content).toList :=
  .string (scanLiteral_stringLiteral_whole dialect content)

theorem isLiteral_boolLiteral (b : Bool) :
    IsLiteral Char.isDigit dialect (dialect.boolLiteral b).toList := by
  have bit : ∀ c, c.isDigit = true → IsLiteral Char.isDigit dialect [c] := by
    intro c isDigit
    have numeral : Text.IsNumeral Char.isDigit ([] ++ ([c] ++ [] ++ [])) :=
      .mk (by decide) (.mk ⟨by simp, by simpa using isDigit⟩ .none) .none
    exact .numeral numeral
  rw [boolLiteral]
  cases dialect.hasTruthWords <;> cases b
  · exact bit '0' rfl
  · exact bit '1' rfl
  · exact .keyword (by decide)
  · exact .keyword (by decide)

theorem isLiteral_binaryLiteral {format : BinaryFormat} (x : Binary format)
    (inside : format.capacity ≤ Nat.pow 2 53 ∧ -1074 ≤ format.minExponent ∧
      format.maxExponent ≤ 971) :
    IsLiteral Char.isDigit dialect (binaryLiteral x).toList := by
  by_cases finite : x.isFinite = true
  · exact .numeral (isNumeral_binaryLiteral finite inside)
  · rw [binaryLiteral, if_neg finite]
    exact .keyword (by decide)

theorem IsLiteral.isNumeral {chars : List Char} (literal : IsLiteral digit dialect chars)
    (starts : IsNumeralText chars) : Text.IsNumeral digit chars := by
  obtain ⟨c, rest, rfl, first, -⟩ := starts
  have other : ∀ d ∈ ['N', 'T', 'F', '\''], c ≠ d := by
    rintro _ known rfl
    simp only [List.mem_cons, List.not_mem_nil, or_false] at known
    rcases known with rfl | rfl | rfl | rfl <;> revert first <;> decide
  generalize shape : c :: rest = chars at literal
  cases literal with
  | keyword known =>
      simp only [List.mem_cons, List.not_mem_nil, or_false] at known
      rcases known with rfl | rfl | rfl
      · exact absurd (List.cons.inj shape).1 (other 'N' (by decide))
      · exact absurd (List.cons.inj shape).1 (other 'T' (by decide))
      · exact absurd (List.cons.inj shape).1 (other 'F' (by decide))
  | numeral digits => exact digits
  | string read =>
      subst shape
      rw [scanLiteral] at read
      · cases read
      · rintro behind ⟨⟩
        exact other '\'' (by decide) rfl
  | timestamp => exact absurd (List.cons.inj shape).1 (other 'T' (by decide))

theorem IsLiteral.isTimestampContent {quoted content : List Char}
    (literal : IsLiteral digit dialect ("TIMESTAMP ".toList ++ quoted))
    (read : dialect.scanLiteral quoted = some (content, [])) (letter : digit 'T' = false) :
    Shape.IsTimestampContent digit content := by
  generalize shape : "TIMESTAMP ".toList ++ quoted = chars at literal
  cases literal with
  | keyword known =>
      simp only [List.mem_cons, List.not_mem_nil, or_false] at known
      rcases known with rfl | rfl | rfl <;> cases shape
  | numeral digits =>
      cases digits with
      | @mk sign plain exponent signs digits scaled =>
          obtain ⟨c, rest, rfl, first, -⟩ := digits.shape
          simp only [List.mem_cons, List.not_mem_nil, or_false] at signs
          rcases signs with rfl | rfl
          · cases (List.cons.inj shape).1
            exact absurd (letter.symm.trans first) Bool.false_ne_true
          · cases shape
  | string whole =>
      subst shape
      cases whole
  | @timestamp quoted content' typed again stamp =>
      cases List.append_cancel_left shape
      cases read.symm.trans again
      exact stamp

theorem IsLiteral.ofAscii {chars : List Char} (literal : IsLiteral Char.isDigit dialect chars) :
    IsLiteral Text.isDecimalDigit dialect chars := by
  cases literal with
  | keyword known => exact .keyword known
  | numeral digits => exact .numeral digits.ofAscii
  | string read => exact .string read
  | timestamp typed read stamp =>
      exact .timestamp typed read (stamp.imp fun _ _ => Text.isDecimalDigit_of_isDigit)

/-! ## Decimals and texts -/

variable {s : String}

theorem length_lt_stringLiteral (content : List Char) :
    content.length < (dialect.stringLiteral content).toList.length := by
  have escaped : content.length ≤ (dialect.escapeString content).length := by
    have marks := Text.length_le_doubled '\'' content
    rw [escapeString]
    split
    · exact Nat.le_trans marks (Text.length_le_doubled '\\' _)
    · exact marks
  rw [stringLiteral, String.toList_ofList, List.cons_append, List.length_cons, List.length_append]
  omega

/-- A decimal is written as it is if and only if it is a numeral, in the digits of any script. -/
theorem literal_decimal_eq_iff :
    dialect.literal (.decimal s) = s ↔ Text.IsNumeral Text.isDecimalDigit s.toList := by
  rw [← Shape.isNumeral_iff, literal]
  split
  · rename_i numeral
    exact iff_of_true rfl numeral
  · rename_i other
    refine iff_of_false (fun same => ?_) other
    have longer : s.toList.length < (dialect.stringLiteral s.toList).toList.length :=
      length_lt_stringLiteral s.toList
    rw [same] at longer
    exact Nat.lt_irrefl _ longer

/-- A decimal has a form in the digits of ASCII unless it is a numeral in other ones. -/
theorem isLiteral_decimal_iff :
    IsLiteral Char.isDigit dialect (dialect.literal (.decimal s)).toList ↔
      (Text.IsNumeral Text.isDecimalDigit s.toList → Text.IsNumeral Char.isDigit s.toList) := by
  by_cases numeral : Text.IsNumeral Text.isDecimalDigit s.toList
  · rw [literal_decimal_eq_iff.mpr numeral]
    constructor
    · intro literal _
      exact literal.isNumeral (isNumeralText_of_isNumeral numeral)
    · exact fun ascii => .numeral (ascii numeral)
  · rw [literal_of_not_isNumeral numeral]
    exact iff_of_true (isLiteral_stringLiteral s.toList) (absurd · numeral)

/-- A text has a form in the digits of ASCII unless it is a timestamp in other ones. -/
theorem isLiteral_text_iff :
    IsLiteral Char.isDigit dialect (dialect.literal (.text s)).toList ↔
      (dialect.WritesTimestamp s → Shape.IsTimestampText Char.isDigit s.toList) := by
  by_cases stamp : dialect.WritesTimestamp s
  · rw [literal_of_writesTimestamp stamp, String.toList_append]
    have read := scanLiteral_stringLiteral_whole dialect (Shape.spaced s.toList)
    constructor
    · intro literal _
      exact Shape.isTimestampText_of_spaced stamp.2 (literal.isTimestampContent read rfl)
    · intro ascii
      exact .timestamp stamp.1 read
        (Shape.isTimestampContent_spaced (fun _ => Text.isDecimalDigit_of_isDigit) (ascii stamp))
  · rw [literal_of_not_writesTimestamp stamp]
    exact iff_of_true (isLiteral_stringLiteral s.toList) (absurd · stamp)

/-! ## Values -/

/-- The digits of ASCII are all that a value is written in, apart from decimals and texts. -/
theorem isLiteral_ascii_iff (value : Value) :
    IsLiteral Char.isDigit dialect (dialect.literal value).toList ↔
      (∀ s, value = .decimal s →
        Text.IsNumeral Text.isDecimalDigit s.toList → Text.IsNumeral Char.isDigit s.toList) ∧
      (∀ s, value = .text s →
        dialect.WritesTimestamp s → Shape.IsTimestampText Char.isDigit s.toList) := by
  cases value with
  | null =>
      have keyword : IsLiteral Char.isDigit dialect "NULL".toList := .keyword (by decide)
      exact iff_of_true keyword ⟨nofun, nofun⟩
  | bool b => exact iff_of_true (isLiteral_boolLiteral b) ⟨nofun, nofun⟩
  | integer width n =>
      exact iff_of_true (.numeral (isNumeral_signedDecimal n.val)) ⟨nofun, nofun⟩
  | float x => exact iff_of_true (isLiteral_binaryLiteral x (by decide)) ⟨nofun, nofun⟩
  | double x => exact iff_of_true (isLiteral_binaryLiteral x (by decide)) ⟨nofun, nofun⟩
  | decimal s =>
      rw [isLiteral_decimal_iff]
      constructor
      · intro ascii
        refine ⟨?_, nofun⟩
        rintro _ ⟨⟩
        exact ascii
      · exact fun ascii => ascii.1 s rfl
  | text s =>
      rw [isLiteral_text_iff]
      constructor
      · intro ascii
        refine ⟨nofun, ?_⟩
        rintro _ ⟨⟩
        exact ascii
      · exact fun ascii => ascii.2 s rfl

/-- Every literal has one of the forms in the digits of some script. -/
theorem isLiteral_literal (value : Value) :
    IsLiteral Text.isDecimalDigit dialect (dialect.literal value).toList := by
  have other : (∀ s, value ≠ .decimal s) → (∀ s, value ≠ .text s) →
      IsLiteral Text.isDecimalDigit dialect (dialect.literal value).toList := by
    intro noDecimal noText
    apply IsLiteral.ofAscii
    exact (isLiteral_ascii_iff value).mpr
      ⟨fun s same => absurd same (noDecimal s), fun s same => absurd same (noText s)⟩
  cases value with
  | decimal s =>
      by_cases numeral : Text.IsNumeral Text.isDecimalDigit s.toList
      · rw [literal_decimal_eq_iff.mpr numeral]
        exact .numeral numeral
      · rw [literal_of_not_isNumeral numeral]
        exact isLiteral_stringLiteral s.toList
  | text s =>
      by_cases stamp : dialect.WritesTimestamp s
      · rw [literal_of_writesTimestamp stamp, String.toList_append]
        exact .timestamp stamp.1 (scanLiteral_stringLiteral_whole dialect _)
          (Shape.isTimestampContent_spaced (fun _ => id) stamp.2)
      · rw [literal_of_not_writesTimestamp stamp]
        exact isLiteral_stringLiteral s.toList
  | _ => exact other nofun nofun

theorem literal_of_not_isFinite {value : Value} (other : value.isFinite = false) :
    dialect.literal value = "NULL" := by
  cases value with
  | float x => exact if_neg (ne_true_of_eq_false other)
  | double x => exact if_neg (ne_true_of_eq_false other)
  | _ => cases other

/-- What a value is written as: a keyword, a numeral, a string or a timestamp, with the digits of
ASCII in it unless the value is a numeral or a timestamp in the digits of another script. Only a
numeral leaves a decimal without quotes, and a float that is not finite is `NULL`. -/
theorem literal_forms (dialect : Dialect) (value : Value) :
    IsLiteral Text.isDecimalDigit dialect (dialect.literal value).toList ∧
    (IsLiteral Char.isDigit dialect (dialect.literal value).toList ↔
      (∀ s, value = .decimal s →
        Text.IsNumeral Text.isDecimalDigit s.toList → Text.IsNumeral Char.isDigit s.toList) ∧
      (∀ s, value = .text s →
        dialect.WritesTimestamp s → Shape.IsTimestampText Char.isDigit s.toList)) ∧
    (∀ s, value = .decimal s →
      (dialect.literal value = s ↔ Text.IsNumeral Text.isDecimalDigit s.toList)) ∧
    (value.isFinite = false → dialect.literal value = "NULL") := by
  refine ⟨isLiteral_literal value, isLiteral_ascii_iff value, ?_, literal_of_not_isFinite⟩
  rintro s rfl
  exact literal_decimal_eq_iff

/-- A decimal in Arabic digits is written without quotes, and has none of the forms in the digits
of ASCII. -/
theorem literal_arabic_digit :
    ¬ IsLiteral Char.isDigit .postgres (postgres.literal (.decimal "\u0663")).toList := by
  intro literal
  have arabic : Text.IsNumeral Text.isDecimalDigit "\u0663".toList :=
    Shape.isNumeral_iff.mp (by decide)
  obtain ⟨c, member, digit⟩ := (isLiteral_decimal_iff.mp literal arabic).exists_digit
  cases List.mem_singleton.mp member
  cases digit

end Dialect

end PagedJoins
