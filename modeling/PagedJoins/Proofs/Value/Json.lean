import PagedJoins.Value.Json
import PagedJoins.Proofs.Json.Reading

/-!
# Values read back

A written value is read back as it was, with its type: a text with all its characters, an
integer with its width. The floats are left to a module of their own, since what becomes
of them depends on how their digits are chosen.
-/

namespace PagedJoins.Value

open Json Json.Reader

/-- Is the value read back from its JSON, wherever it stands? -/
def ReadsBack (value : Value) : Prop :=
  reader.Reads value.toJson.toList value

/-- A value is read back if its body is, in front of the end of the object. -/
theorem tagged_reads {name body : String} {value : Value}
    (reads : ∀ rest, (bodyReader name).run (body.toList ++ '\x7d' :: rest) =
      .ok (value, '\x7d' :: rest)) :
    reader.Reads (tagged name body).toList value := by
  intro rest
  have written : (tagged name body).toList ++ rest =
      '\x7b' :: ((quote name).toList ++ ':' :: (body.toList ++ '\x7d' :: rest)) := by
    simp [tagged, Json.object]
  have named := string_reads name (':' :: (body.toList ++ '\x7d' :: rest))
  have colon : (expect ':').run (':' :: (body.toList ++ '\x7d' :: rest)) =
      .ok ((), body.toList ++ '\x7d' :: rest) :=
    expect_reads (by decide) _
  have closed : (expect '\x7d').run ('\x7d' :: rest) = .ok ((), rest) :=
    expect_reads (by decide) rest
  rw [written, reader, run_bind_of_ok (run_peek (by decide) _), if_pos rfl,
    run_bind_of_ok (run_advance _ _), run_bind_of_ok named, run_bind_of_ok colon,
    run_bind_of_ok (reads rest), run_bind_of_ok closed]
  rfl

theorem bodyReader_run {α : Type} {name : String} {body : List Char} {content : Reader α}
    {build : α → Value} {inner : α} (chosen : bodyReader name = build <$> content)
    (reads : content.Reads body inner) (rest : List Char) :
    (bodyReader name).run (body ++ rest) = .ok (build inner, rest) := by
  rw [chosen]
  exact reads.map build rest

theorem null_readsBack : ReadsBack null := by
  intro rest
  have word : reader.run ((quote "Null").toList ++ rest) = .ok (null, rest) := by
    rw [reader, toList_quote, List.cons_append, run_bind_of_ok (run_peek (by decide) _),
      if_neg (by decide), ← List.cons_append, ← toList_quote,
      run_bind_of_ok (string_reads "Null" rest)]
    rfl
  exact word

theorem bool_readsBack (b : Bool) : ReadsBack (bool b) := by
  apply tagged_reads
  intro rest
  have chosen : bodyReader "Bool" = bool <$> Reader.bool := rfl
  exact bodyReader_run chosen (bool_reads b) _

theorem integer_readsBack {width : IntWidth} (n : SizedInt width) :
    ReadsBack (integer width n) := by
  apply tagged_reads
  intro rest
  have chosen : bodyReader width.name = integer width <$> sizedReader width := by
    rw [bodyReader, IntWidth.ofName?_name]
    rfl
  have ends : EndsNumeral ('\x7d' :: rest) := by
    intro c first
    cases first
    decide
  have sized : (sizedReader width).run ((Text.signedDecimal n.val).toList ++ '\x7d' :: rest) =
      .ok (n, '\x7d' :: rest) := by
    rw [sizedReader, run_bind_of_ok (run_numeral n.val ends), toInt?_written]
    change (ofOption (SizedInt.ofInt? width n.val)).run _ = _
    rw [SizedInt.ofInt?_val]
    rfl
  rw [chosen, map_eq_pure_bind, run_bind_of_ok sized]
  rfl

theorem decimal_readsBack (text : String) : ReadsBack (decimal text) := by
  apply tagged_reads
  intro rest
  have chosen : bodyReader "Decimal" = decimal <$> string := rfl
  exact bodyReader_run chosen (string_reads text) _

theorem text_readsBack (s : String) : ReadsBack (text s) := by
  apply tagged_reads
  intro rest
  have chosen : bodyReader "Text" = text <$> string := rfl
  exact bodyReader_run chosen (string_reads s) _

/-- Every value but a float is read back. -/
theorem readsBack_of_kind_ne_float {value : Value} (notFloat : value.kind ≠ .float) :
    ReadsBack value := by
  cases value with
  | null => exact null_readsBack
  | bool b => exact bool_readsBack b
  | integer width n => exact integer_readsBack n
  | float x => exact absurd rfl notFloat
  | double x => exact absurd rfl notFloat
  | decimal text => exact decimal_readsBack text
  | text s => exact text_readsBack s

end PagedJoins.Value
