import PagedJoins.Proofs.Json.Double
import PagedJoins.Proofs.Json.Single
import PagedJoins.Proofs.Value.Json

/-!
# Floats read back

A finite float of 32 bits is read back from its JSON as it was, zeros with their sign. One of 64
bits comes back as a finite number with its sign, fewer than five units of its last place away, and
as it was if few digits are written for it.
-/

namespace PagedJoins

/-! ## Numbers -/

namespace Binary

/-- The unit of the last place of a finite number. -/
def lastUnit {format : BinaryFormat} : Binary format → ℚ
  | .finite _ _ exponent _ => 2 ^ exponent
  | _ => 0

/-- Are the digits that are written for a number, and their power of ten, numbers of its format? -/
def IsShort : Binary .double → Prop
  | .finite negative significand exponent _ =>
    (Layout.jsonDouble.numeral .double negative significand exponent).significand < 2 ^ 53 ∧
      (Layout.jsonDouble.numeral .double negative significand exponent).power.natAbs ≤ 22
  | _ => False

theorem isShort_zero (negative : Bool) : (zero negative : Binary .double).IsShort :=
  ⟨show Text.ofDigits ['0', '0'] < 2 ^ 53 by decide, show Int.natAbs (-1) ≤ 22 by decide⟩

/-- What a number of 64 bits may come back as. -/
structure ComesBackAs (x y : Binary .double) : Prop where
  finite : y.isFinite = true
  sign : y.isNegative = x.isNegative
  near : |y.magnitude - x.magnitude| < 5 * x.lastUnit
  short : x.IsShort → y = x

end Binary

namespace Value

open Json Json.Reader

theorem toList_numberJson (layout : Layout) {format : BinaryFormat} (negative : Bool)
    {significand : Nat} {exponent : Int} (canonical : format.Canonical significand exponent) :
    (numberJson layout (.finite negative significand exponent canonical)).toList =
      signChars negative ++ layout.magnitudeChars format significand exponent := by
  change ((Binary.finite negative significand exponent canonical).render layout).toList = _
  rw [Binary.render, String.toList_ofList]
  cases negative with
  | true => rfl
  | false => rfl

theorem binaryReader_run {numeral : Numeral} {negative : Bool} {chars : List Char}
    (spells : numeral.Spells negative chars) {format : BinaryFormat} {x : Binary format}
    (read : numeral.toBinary? format = some x) (rest : List Char) :
    (binaryReader format).run (signChars negative ++ chars ++ '\x7d' :: rest) =
      .ok (x, '\x7d' :: rest) := by
  have ends : EndsNumeral ('\x7d' :: rest) := by
    intro c first
    cases first
    decide
  rw [← spells.spelled, binaryReader,
    run_bind_of_ok (run_numeral_spelling spells.wellFormed ends), read]
  rfl

theorem float_readsBack {x : Binary .single} (finite : x.isFinite = true) :
    ReadsBack (float x) := by
  cases x with
  | nan => cases finite
  | infinite negative => cases finite
  | finite negative significand exponent canonical =>
      have narrow : significand < 2 ^ 24 := canonical.1
      have least : -149 ≤ exponent := canonical.2.1
      have greatest : exponent ≤ 104 := canonical.2.2.1
      have spells := Layout.spells_numeral Layout.isJson_jsonSingle .single negative
        (narrow.trans (by decide)) (show -1074 ≤ exponent by omega) (by omega)
      apply tagged_reads
      intro rest
      have chosen : bodyReader "Float" = float <$> binaryReader .single := rfl
      have read := binaryReader_run spells (Layout.toBinary?_numeral_single negative canonical) rest
      rw [toList_numberJson, chosen, map_eq_pure_bind, run_bind_of_ok read]
      rfl

/-- Every finite float of 64 bits is read as one near it. -/
theorem double_reads {x : Binary .double} (finite : x.isFinite = true) :
    ∃ y, x.ComesBackAs y ∧ reader.Reads (double x).toJson.toList (double y) := by
  cases x with
  | nan => cases finite
  | infinite negative => cases finite
  | finite negative significand exponent canonical =>
      have spells := Layout.spells_numeral Layout.isJson_jsonDouble .double negative
        canonical.1 canonical.2.1 canonical.2.2.1
      obtain ⟨y, valued, finite', sign, near⟩ :=
        Layout.toBinary?_numeral_double negative canonical
      refine ⟨y, ⟨finite', sign, near, fun short => ?_⟩, ?_⟩
      · have same := Layout.toBinary?_numeral_double_of_short negative canonical short.1 short.2
        exact Option.some.inj (valued.symm.trans same)
      · apply tagged_reads
        intro rest
        have chosen : bodyReader "Double" = double <$> binaryReader .double := rfl
        have read := binaryReader_run spells valued rest
        rw [toList_numberJson, chosen, map_eq_pure_bind, run_bind_of_ok read]
        rfl

/-! ## Values -/

/-- What a finite value may come back as: itself, unless it is a float of 64 bits. -/
inductive ComesBackAs : Value → Value → Prop where
  | same {value : Value} (other : ∀ x, value ≠ double x) : ComesBackAs value value
  | double {x y : Binary .double} (near : x.ComesBackAs y) : ComesBackAs (.double x) (.double y)

theorem ComesBackAs.eq_of_short {value read : Value} (reads : value.ComesBackAs read)
    (short : ∀ x, value = .double x → x.IsShort) : read = value := by
  cases reads with
  | same other => rfl
  | double near => rw [near.short (short _ rfl)]

theorem readsBack_of_ne_double {value : Value} (finite : value.isFinite = true)
    (other : ∀ x, value ≠ double x) : ReadsBack value := by
  cases value with
  | float x => exact float_readsBack finite
  | double x => exact absurd rfl (other x)
  | null => exact null_readsBack
  | bool b => exact bool_readsBack b
  | integer width n => exact integer_readsBack n
  | decimal text => exact decimal_readsBack text
  | text s => exact text_readsBack s

/-- Every finite value is read as one that it may come back as. -/
theorem reads_of_isFinite {value : Value} (finite : value.isFinite = true) :
    ∃ read, value.ComesBackAs read ∧ reader.Reads value.toJson.toList read := by
  by_cases wide : ∃ x, value = double x
  · obtain ⟨x, rfl⟩ := wide
    obtain ⟨y, near, reads⟩ := double_reads (show x.isFinite = true from finite)
    exact ⟨double y, .double near, reads⟩
  · have other : ∀ x, value ≠ double x := not_exists.mp wide
    exact ⟨value, .same other, readsBack_of_ne_double finite other⟩

end Value

end PagedJoins
