import PagedJoins.Proofs.Json.Text
import PagedJoins.Proofs.Sql.Shape
import PagedJoins.Proofs.Sql.Token
import PagedJoins.Proofs.Binary.Layout

/-!
# Literals read back

Every literal is a few tokens: a word, or a string with perhaps the word of its type. A word
is a keyword or has the characters of a numeral, so nothing in it ends it or starts
something else, and only `NULL` is written as that word.
-/

namespace PagedJoins

/-- A literal that was read. -/
inductive Literal where
  /-- A keyword or a numeral. -/
  | word (text : String)
  | string (content : String)
  /-- A string with the name of its type before it. -/
  | typed (type content : String)
  deriving DecidableEq, Repr

/-- The tokens of a literal. -/
def Literal.tokens : Literal → List Token
  | word text => [.word text]
  | string content => [.string content]
  | typed type content => [.word type, .string content]

namespace Dialect

/-- The literal that a value is written as. -/
def spelling (dialect : Dialect) : Value → Literal
  | .text s =>
    match Shape.timestamp? s.toList with
    | some content =>
      if dialect.hasTimestamps then .typed "TIMESTAMP" (String.ofList content) else .string s
    | none => .string s
  | .decimal s => if Shape.isNumeral s.toList then .word s else .string s
  | value => .word (dialect.literal value)

/-- The characters of numerals. -/
def isNumeralChar (c : Char) : Bool :=
  Text.isDecimalDigit c || c ∈ ['-', '+', '.', 'e', 'E']

/-- Does the text start as a numeral and go on with the characters of one? -/
def IsNumeralText (chars : List Char) : Prop :=
  ∃ c rest, chars = c :: rest ∧ (Text.isDecimalDigit c = true ∨ c = '-') ∧
    ∀ d ∈ rest, isNumeralChar d = true

variable {dialect : Dialect}

/-! ## Numerals -/

theorem not_mem_breaks_of_isNumeralChar {c : Char} (numeral : isNumeralChar c = true) :
    c ∉ Token.breaks := by
  have none : Token.breaks.all (!isNumeralChar ·) = true := by decide
  intro member
  have other := List.all_eq_true.mp none c member
  rw [numeral] at other
  cases other

theorem start_of_numeral {c : Char} (starts : Text.isDecimalDigit c = true ∨ c = '-') :
    c ∉ '.' :: 'A' :: 'O' :: dialect.quoteMarks.1 :: Token.breaks := by
  have none : ('.' :: 'A' :: 'O' :: dialect.quoteMarks.1 :: Token.breaks).all
      (fun d => !(Text.isDecimalDigit d || d = '-')) = true := by
    cases dialect <;> decide
  intro member
  have other := List.all_eq_true.mp none c member
  rcases starts with digit | rfl
  · rw [digit] at other
    cases other
  · cases other

theorem IsNumeralText.negate {chars : List Char} (numeral : IsNumeralText chars) :
    IsNumeralText ('-' :: chars) := by
  obtain ⟨c, rest, rfl, starts, goesOn⟩ := numeral
  refine ⟨'-', c :: rest, rfl, .inr rfl, ?_⟩
  intro d member
  rcases List.mem_cons.mp member with rfl | behind
  · rcases starts with digit | rfl
    · rw [isNumeralChar, digit, Bool.true_or]
    · rfl
  · exact goesOn d behind

theorem isNumeralText_of_isNumeral {chars : List Char}
    (numeral : Text.IsNumeral Text.isDecimalDigit chars) : IsNumeralText chars := by
  cases numeral with
  | @mk sign plain exponent signs digits scaled =>
      obtain ⟨c, rest, rfl, digit, goesOn⟩ := digits.shape
      have unsigned : IsNumeralText (c :: rest ++ exponent) := by
        refine ⟨c, rest ++ exponent, rfl, .inl digit, ?_⟩
        intro d member
        rw [isNumeralChar, Bool.or_eq_true, decide_eq_true_eq]
        rcases List.mem_append.mp member with inside | behind
        · exact (goesOn d inside).imp id fun point => by simp [point]
        · exact (scaled.chars_mem d behind).imp id fun mark => by
            simp only [List.mem_cons] at mark ⊢
            tauto
      simp only [List.mem_cons, List.not_mem_nil, or_false] at signs
      rcases signs with rfl | rfl
      · exact unsigned
      · exact unsigned.negate

theorem spells_numeral {text : String}
    (numeral : Text.IsNumeral Text.isDecimalDigit text.toList) :
    dialect.Spells text.toList [.word text] := by
  obtain ⟨c, rest, shape, starts, goesOn⟩ := isNumeralText_of_isNumeral numeral
  have start : c ∉ '.' :: 'A' :: 'O' :: dialect.quoteMarks.1 :: Token.breaks :=
    start_of_numeral starts
  simp only [List.mem_cons, not_or] at start
  have word : Token.ofWord (c :: rest) = .word text := by
    rw [Token.ofWord, if_neg, if_neg, ← shape, String.ofList_toList]
    · exact fun same => start.2.2.1 (List.cons.inj same).1
    · exact fun same => start.2.1 (List.cons.inj same).1
  rw [shape, ← word]
  apply spells_word
  · simp only [List.mem_cons, not_or]
    exact ⟨start.1, start.2.2.2⟩
  · rw [List.all_eq_true]
    intro d member
    exact decide_eq_true (not_mem_breaks_of_isNumeralChar (goesOn d member))

/-! ## Numbers -/

theorem isNumeral_signedDecimal (i : Int) :
    Text.IsNumeral Char.isDigit (Text.signedDecimal i).toList := by
  have plain : Text.IsPlain Char.isDigit (Text.digits i.natAbs ++ []) :=
    .mk ⟨Text.digits_ne_nil i.natAbs, fun c => Text.isDigit_of_mem_digits⟩ .none
  have numeral : Text.IsNumeral Char.isDigit
      (Json.signChars (decide (i < 0)) ++ (Text.digits i.natAbs ++ [] ++ [])) := by
    refine .mk ?_ plain .none
    cases decide (i < 0) <;> decide
  rw [Json.toList_signedDecimal]
  simpa only [List.append_nil] using numeral

theorem isNumeral_binaryLiteral {format : BinaryFormat} {x : Binary format}
    (finite : x.isFinite = true)
    (inside : format.capacity ≤ Nat.pow 2 53 ∧ -1074 ≤ format.minExponent ∧
      format.maxExponent ≤ 971) : Text.IsNumeral Char.isDigit (binaryLiteral x).toList := by
  rw [binaryLiteral, if_pos finite]
  cases x with
  | nan => cases finite
  | infinite negative => cases finite
  | finite negative significand exponent canonical =>
      have plain : Text.IsPlain Char.isDigit
          (Layout.plain.magnitudeChars format significand exponent) :=
        Layout.isPlain_magnitudeChars (Nat.lt_of_lt_of_le canonical.1 inside.1)
          (Int.le_trans inside.2.1 canonical.2.1) (Int.le_trans canonical.2.2.1 inside.2.2)
      have unsigned : Text.IsNumeral Char.isDigit
          ([] ++ (Layout.plain.magnitudeChars format significand exponent ++ [])) :=
        .mk (by decide) plain .none
      have signed : Text.IsNumeral Char.isDigit
          (['-'] ++ (Layout.plain.magnitudeChars format significand exponent ++ [])) :=
        .mk (by decide) plain .none
      rw [List.append_nil] at unsigned signed
      rw [Binary.render, String.toList_ofList]
      cases negative with
      | false => exact unsigned
      | true => exact signed

/-! ## Literals -/

theorem spells_plainWord {text : String} {c : Char} {word : List Char}
    (shape : text.toList = c :: word) (starts : c ∉ '.' :: dialect.quoteMarks.1 :: Token.breaks)
    (plain : word.all (· ∉ Token.breaks) = true) (other : Token.ofWord (c :: word) = .word text) :
    dialect.Spells text.toList [.word text] := by
  rw [shape, ← other]
  exact spells_word starts plain

theorem spells_keyword {text : String}
    (known : text ∈ ["NULL", "TRUE", "FALSE", "1", "0", "TIMESTAMP"]) :
    dialect.Spells text.toList [.word text] := by
  simp only [List.mem_cons, List.not_mem_nil, or_false] at known
  rcases known with rfl | rfl | rfl | rfl | rfl | rfl <;>
    exact spells_plainWord rfl (by cases dialect <;> decide) (by decide) rfl

theorem boolLiteral_mem (b : Bool) :
    dialect.boolLiteral b ∈ ["NULL", "TRUE", "FALSE", "1", "0", "TIMESTAMP"] := by
  cases dialect <;> cases b <;> decide

theorem spells_string (s : String) :
    dialect.Spells (dialect.stringLiteral s.toList).toList [.string s] := by
  have string : dialect.Spells (dialect.stringLiteral s.toList).toList
      [.string (String.ofList s.toList)] :=
    spells_stringLiteral s.toList
  rw [String.ofList_toList] at string
  exact string

theorem spells_typed (content : List Char) :
    dialect.Spells ("TIMESTAMP " ++ dialect.stringLiteral content).toList
      [.word "TIMESTAMP", .string (String.ofList content)] := by
  have shape : ("TIMESTAMP " ++ dialect.stringLiteral content).toList =
      "TIMESTAMP".toList ++ ' ' :: (dialect.stringLiteral content).toList := by
    rw [String.toList_append]
    rfl
  rw [shape]
  apply (spells_keyword (by decide)).append (spells_stringLiteral content).blank
  intro rest c starts
  exact .inl (Option.some.inj starts).symm

/-- A literal of a finite value is read as what it is. -/
theorem spells_literal {value : Value} (finite : value.isFinite = true) :
    dialect.Spells (dialect.literal value).toList (dialect.spelling value).tokens := by
  cases value with
  | null =>
      show dialect.Spells "NULL".toList [.word "NULL"]
      exact spells_keyword (by decide)
  | bool b => exact spells_keyword (boolLiteral_mem b)
  | integer width n => exact spells_numeral (isNumeral_signedDecimal n.val).ofAscii
  | float x => exact spells_numeral (isNumeral_binaryLiteral finite (by decide)).ofAscii
  | double x => exact spells_numeral (isNumeral_binaryLiteral finite (by decide)).ofAscii
  | decimal s =>
      rw [literal, spelling]
      by_cases numeral : Shape.isNumeral s.toList = true
      · rw [if_pos numeral, if_pos numeral]
        exact spells_numeral (Shape.isNumeral_iff.mp numeral)
      · rw [if_neg numeral, if_neg numeral]
        exact spells_string s
  | text s =>
      rw [literal, spelling]
      cases Shape.timestamp? s.toList with
      | none => exact spells_string s
      | some content =>
          cases dialect.hasTimestamps with
          | false => exact spells_string s
          | true => exact spells_typed content

theorem word_ne_null_of_isNumeral {text : String}
    (numeral : Text.IsNumeral Text.isDecimalDigit text.toList) :
    Literal.word text ≠ .word "NULL" := by
  intro same
  cases same
  obtain ⟨c, rest, shape, starts, -⟩ := isNumeralText_of_isNumeral numeral
  obtain ⟨rfl, -⟩ := List.cons.inj shape
  revert starts
  decide

/-- Of the finite values only the missing one is written as `NULL`. -/
theorem spelling_eq_null_iff {value : Value} (finite : value.isFinite = true) :
    dialect.spelling value = .word "NULL" ↔ value = .null := by
  cases value with
  | null => exact iff_of_true rfl rfl
  | bool b =>
      refine iff_of_false ?_ nofun
      cases dialect <;> cases b <;> decide
  | integer width n =>
      refine iff_of_false ?_ nofun
      exact word_ne_null_of_isNumeral (isNumeral_signedDecimal n.val).ofAscii
  | float x =>
      refine iff_of_false ?_ nofun
      exact word_ne_null_of_isNumeral (isNumeral_binaryLiteral finite (by decide)).ofAscii
  | double x =>
      refine iff_of_false ?_ nofun
      exact word_ne_null_of_isNumeral (isNumeral_binaryLiteral finite (by decide)).ofAscii
  | decimal s =>
      refine iff_of_false ?_ nofun
      rw [spelling]
      split
      · rename_i numeral
        exact word_ne_null_of_isNumeral (Shape.isNumeral_iff.mp numeral)
      · exact nofun
  | text s =>
      refine iff_of_false ?_ nofun
      rw [spelling]
      split
      · split
        · exact nofun
        · exact nofun
      · exact nofun

end Dialect

end PagedJoins
