import PagedJoins.Text.DecimalDigit

/-!
# Numerals of a class of digits

A numeral is an optional minus, digits, and perhaps a fraction and an exponent. Which characters
are digits is left open: the digits of ASCII are one class, those of every script another, and
a numeral of the one is a numeral of the other if all of its digits are.
-/

namespace PagedJoins.Text

/-- At least one digit, and nothing else. -/
def IsRun (digit : Char → Bool) (chars : List Char) : Prop :=
  chars ≠ [] ∧ ∀ c ∈ chars, digit c = true

instance (digit : Char → Bool) (chars : List Char) : Decidable (IsRun digit chars) :=
  decidable_of_iff (chars ≠ [] ∧ chars.all digit = true) (and_congr_right fun _ => List.all_eq_true)

/-- A point and digits, or nothing. -/
inductive IsFraction (digit : Char → Bool) : List Char → Prop where
  | none : IsFraction digit []
  | some {digits : List Char} (run : IsRun digit digits) : IsFraction digit ('.' :: digits)

/-- An `e`, perhaps a sign, and digits; or nothing. -/
inductive IsExponent (digit : Char → Bool) : List Char → Prop where
  | none : IsExponent digit []
  | some {mark : Char} {sign digits : List Char} (marks : mark ∈ ['e', 'E'])
      (signs : sign ∈ [[], ['+'], ['-']]) (run : IsRun digit digits) :
      IsExponent digit (mark :: (sign ++ digits))

/-- Digits and perhaps a fraction. -/
inductive IsPlain (digit : Char → Bool) : List Char → Prop where
  | mk {whole fraction : List Char} (run : IsRun digit whole)
      (fractional : IsFraction digit fraction) : IsPlain digit (whole ++ fraction)

/-- Digits with perhaps a fraction and an exponent, and perhaps a minus before them. -/
inductive IsNumeral (digit : Char → Bool) : List Char → Prop where
  | mk {sign plain exponent : List Char} (signs : sign ∈ [[], ['-']])
      (digits : IsPlain digit plain) (scaled : IsExponent digit exponent) :
      IsNumeral digit (sign ++ (plain ++ exponent))

variable {p q : Char → Bool} {chars : List Char}

/-! ## From one class of digits to another -/

theorem IsRun.imp (run : IsRun p chars) (each : ∀ c ∈ chars, p c = true → q c = true) :
    IsRun q chars :=
  ⟨run.1, fun c member => each c member (run.2 c member)⟩

theorem IsFraction.imp (fraction : IsFraction p chars)
    (each : ∀ c ∈ chars, p c = true → q c = true) : IsFraction q chars := by
  cases fraction with
  | none => exact .none
  | some run => exact .some (run.imp fun c member => each c (List.mem_cons_of_mem _ member))

theorem IsExponent.imp (exponent : IsExponent p chars)
    (each : ∀ c ∈ chars, p c = true → q c = true) : IsExponent q chars := by
  cases exponent with
  | none => exact .none
  | some marks signs run =>
      refine .some marks signs (run.imp fun c member => each c ?_)
      exact List.mem_cons_of_mem _ (List.mem_append_right _ member)

theorem IsPlain.imp (plain : IsPlain p chars) (each : ∀ c ∈ chars, p c = true → q c = true) :
    IsPlain q chars := by
  cases plain with
  | mk run fractional =>
      obtain ⟨before, behind⟩ := List.forall_mem_append.mp each
      exact .mk (run.imp before) (fractional.imp behind)

theorem IsNumeral.imp (numeral : IsNumeral p chars)
    (each : ∀ c ∈ chars, p c = true → q c = true) : IsNumeral q chars := by
  cases numeral with
  | mk signs digits scaled =>
      obtain ⟨-, behind⟩ := List.forall_mem_append.mp each
      obtain ⟨unscaled, exponent⟩ := List.forall_mem_append.mp behind
      exact .mk signs (digits.imp unscaled) (scaled.imp exponent)

theorem IsNumeral.ofAscii (numeral : IsNumeral Char.isDigit chars) :
    IsNumeral isDecimalDigit chars :=
  numeral.imp fun _ _ => isDecimalDigit_of_isDigit

/-! ## Characters -/

theorem IsFraction.chars_mem (fraction : IsFraction p chars) :
    ∀ c ∈ chars, p c = true ∨ c = '.' := by
  cases fraction with
  | none => exact nofun
  | some run =>
      rintro c (_ | ⟨_, member⟩)
      · exact .inr rfl
      · exact .inl (run.2 c member)

theorem IsExponent.chars_mem (exponent : IsExponent p chars) :
    ∀ c ∈ chars, p c = true ∨ c ∈ ['-', '+', 'e', 'E'] := by
  have known : (∀ mark ∈ ['e', 'E'], mark ∈ ['-', '+', 'e', 'E']) ∧
      ∀ sign ∈ [[], ['+'], ['-']], ∀ c ∈ sign, c ∈ ['-', '+', 'e', 'E'] := by
    simp
  cases exponent with
  | none => exact nofun
  | some marks signs run =>
      rintro c (_ | ⟨_, member⟩)
      · exact .inr (known.1 _ marks)
      · rcases List.mem_append.mp member with sign | digit
        · exact .inr (known.2 _ signs c sign)
        · exact .inl (run.2 c digit)

theorem IsPlain.shape (plain : IsPlain p chars) :
    ∃ c rest, chars = c :: rest ∧ p c = true ∧ ∀ d ∈ rest, p d = true ∨ d = '.' := by
  cases plain with
  | @mk whole fraction run fractional =>
      obtain ⟨c, digits, rfl⟩ := List.exists_cons_of_ne_nil run.1
      refine ⟨c, digits ++ fraction, rfl, run.2 c (List.mem_cons_self ..), ?_⟩
      intro d member
      rcases List.mem_append.mp member with digit | point
      · exact .inl (run.2 d (List.mem_cons_of_mem _ digit))
      · exact fractional.chars_mem d point

theorem IsNumeral.exists_digit (numeral : IsNumeral p chars) : ∃ c ∈ chars, p c = true := by
  cases numeral with
  | mk signs digits scaled =>
      obtain ⟨c, rest, rfl, digit, -⟩ := digits.shape
      exact ⟨c, by simp, digit⟩

end PagedJoins.Text
