import PagedJoins.Proofs.Json.Gives
import PagedJoins.Proofs.Json.Numeral
import PagedJoins.Proofs.Page.Cursor
import PagedJoins.Proofs.Page.Keyset

/-!
# Cursors that clients hand in

Whatever text a client hands in, what is read from it names no column twice. A value of it can be
not finite for one reason only: a number of the 32-bit format that is spelled past the point where
narrowing overflows is read as infinite. There is no other such value, so a cursor that is read can
be written again unless its text spells such a number, and the same goes for the values of a seek.
-/

namespace PagedJoins

open Json Json.Reader

/-! ## Values -/

namespace Value

/-- Is a float of the value spelled in the document, and is it finite unless it has the 32-bit format
and overflows that? -/
def ReadFrom (document : List Char) : Value → Prop
  | float x => ∃ numeral, Spells document numeral ∧ numeral.toBinary? .single = some x ∧
      ((numeral.OverflowsSingle ∧ ∃ negative, x = .infinite negative) ∨
        ¬ numeral.OverflowsSingle ∧ x.isFinite = true)
  | double x => ∃ numeral, Spells document numeral ∧ numeral.toBinary? .double = some x ∧
      x.isFinite = true
  | _ => True

variable {document : List Char}

theorem gives_binaryReader (format : BinaryFormat) :
    Gives document (binaryReader format) fun x =>
      ∃ numeral, Spells document numeral ∧ numeral.toBinary? format = some x :=
  gives_numeral.bind fun numeral spelled => gives_ofOption fun _ found => ⟨numeral, spelled, found⟩

theorem gives_sizedReader (width : IntWidth) :
    Gives document (sizedReader width) fun _ => True :=
  gives_numeral.bind fun _ _ => (gives_ofOption fun _ _ => trivial).bind fun _ (_ : True) =>
    gives_ofOption fun _ _ => trivial

theorem gives_bodyReader (name : String) :
    Gives document (bodyReader name) (ReadFrom document) := by
  have single : Gives document (do return float (← binaryReader .single)) (ReadFrom document) :=
    (gives_binaryReader .single).bind fun x ⟨numeral, spelled, found⟩ =>
      gives_pure ⟨numeral, spelled, found, numeral.toBinary?_single found⟩
  have double : Gives document (do return double (← binaryReader .double)) (ReadFrom document) :=
    (gives_binaryReader .double).bind fun x ⟨numeral, spelled, found⟩ =>
      gives_pure ⟨numeral, spelled, found, numeral.isFinite_of_toBinary?_double found⟩
  unfold bodyReader
  split
  · exact (gives_sizedReader _).bind fun _ _ => gives_pure trivial
  · refine .ite (fun _ => (gives_word _).bind fun _ _ => gives_pure trivial) fun _ => ?_
    refine .ite (fun _ => gives_bool.bind fun _ _ => gives_pure trivial) fun _ => ?_
    refine .ite (fun _ => single) fun _ => ?_
    refine .ite (fun _ => double) fun _ => ?_
    refine .ite (fun _ => gives_string.bind fun _ _ => gives_pure trivial) fun _ => ?_
    exact .ite (fun _ => gives_string.bind fun _ _ => gives_pure trivial) fun _ => gives_malformed

theorem gives_reader : Gives document reader (ReadFrom document) := by
  refine gives_peek.bind fun _ _ => .ite (fun _ => ?_) fun _ => ?_
  · refine gives_advance.bind fun _ _ => gives_string.bind fun name _ =>
      (gives_expect ':').bind fun _ _ => (gives_bodyReader name).bind fun value known =>
      (gives_expect '\x7d').bind fun _ _ => gives_pure known
  · exact gives_string.bind fun _ _ =>
      .ite (fun _ => gives_pure trivial) fun _ => gives_malformed

theorem ReadFrom.isFinite {value : Value} (known : value.ReadFrom document)
    (inRange : ∀ numeral, Spells document numeral → ¬ numeral.OverflowsSingle) :
    value.isFinite = true := by
  cases value with
  | float x =>
      obtain ⟨numeral, spelled, -, ⟨overflows, -⟩ | ⟨-, finite⟩⟩ := known
      · exact absurd overflows (inRange numeral spelled)
      · exact finite
  | double x =>
      obtain ⟨numeral, -, -, finite⟩ := known
      exact finite
  | _ => rfl

end Value

/-! ## Cursors -/

namespace Cursor

/-- What is known of the pairs that were read: no column comes twice, and floats are from the
document. -/
def PairsFrom (document : List Char) (pairs : List (String × Value)) : Prop :=
  (columns pairs).Nodup ∧ ∀ pair ∈ pairs, pair.2.ReadFrom document

theorem PairsFrom.concat {document : List Char} {pairs : List (String × Value)} {column : String}
    {value : Value} (known : PairsFrom document pairs) (read : value.ReadFrom document)
    (fresh : ¬ pairs.any (·.1 = column) = true) :
    PairsFrom document (pairs ++ [(column, value)]) := by
  have absent : column ∉ columns pairs := by
    intro member
    obtain ⟨pair, among, same⟩ := List.mem_map.mp member
    exact fresh (List.any_eq_true.mpr ⟨pair, among, decide_eq_true same⟩)
  constructor
  · have distinct := known.1.concat absent
    rw [List.concat_eq_append] at distinct
    simpa [columns] using distinct
  · intro pair member
    rcases List.mem_append.mp member with earlier | last
    · exact known.2 pair earlier
    · rw [List.mem_singleton.mp last]
      exact read

/-- A cursor that is read has different columns, and its floats from the document. -/
theorem gives_reader {document : List Char} :
    Gives document reader fun cursor => PairsFrom document cursor.pairs := by
  have start : PairsFrom document [] := ⟨List.nodup_nil, List.forall_mem_nil _⟩
  have keeps : ∀ pairs column, PairsFrom document pairs →
      Gives document (do
        let value ← Value.reader
        if pairs.any (·.1 = column) then throw (.duplicate column)
        else return pairs ++ [(column, value)]) (PairsFrom document) := by
    intro pairs column known
    refine Value.gives_reader.bind fun value read => ?_
    exact .ite (fun _ => gives_throw _) fun fresh => gives_pure (known.concat read fresh)
  exact (gives_object keeps start).map fun pairs known => known

/-- The characters inside the text of a cursor, if it is Base64. -/
def payload? (text : String) : Option (List Char) :=
  (Text.Base64.decode (Text.trimChars text.toList)).map Text.Utf8.chars

theorem document_of_decode {text : String} {cursor : Cursor} (decoded : decode text = .ok cursor) :
    ∃ document, payload? text = some document ∧ reader.document document = .ok cursor := by
  unfold decode at decoded
  unfold payload?
  split at decoded
  · cases decoded
  · rename_i bytes based
    refine ⟨Text.Utf8.chars bytes, by rw [based]; rfl, ?_⟩
    split at decoded
    · rename_i read
      cases decoded
      exact read
    · cases decoded
    · cases decoded

/-- A cursor can be written just if all of its values are finite. -/
theorem encode_eq_ok_iff (cursor : Cursor) :
    (∃ text, cursor.encode = .ok text) ↔ ∀ pair ∈ cursor.pairs, pair.2.isFinite = true := by
  constructor
  · rintro ⟨text, written⟩ pair member
    unfold encode at written
    split at written
    · cases written
    · rename_i none
      simpa using List.find?_eq_none.mp none pair member
  · exact fun finite => ⟨_, encode_of_finite finite⟩

end Cursor

/-! ## Seeks -/

variable {κ : Type}

/-- The text of the cursor that a page by sort key follows. -/
def Node.cursor? (node : Node κ) : Option String :=
  if node.args.isBackward then node.args.before else node.args.after

theorem Cursor.HasValues.mem {cursor : Cursor} {columns : List SortColumn} {values : List Value}
    (known : cursor.HasValues columns values) :
    ∀ value ∈ values, ∃ column, (column, value) ∈ cursor.pairs := by
  intro value member
  obtain ⟨sort, -, found⟩ := exists_of_forall₂_of_mem known member
  obtain ⟨before, after, pairs, -⟩ := List.lookup_eq_some_iff.mp found
  exact ⟨sort.column, by simp [pairs]⟩

/-- The values of a seek are values of the cursor that the page follows. -/
theorem Node.seek_from_cursor {config : Config} {node : Node κ} {page : KeysetPage} {seek : Seek}
    (asked : node.keysetPage config = .ok page) (past : page.seek = some seek) :
    ∃ text cursor, node.cursor? = some text ∧ Cursor.decode text = .ok cursor ∧
      ∀ value ∈ seek.values, ∃ column, (column, value) ∈ cursor.pairs := by
  obtain ⟨base, -, -, -, sought⟩ := Node.keysetPage_eq_ok asked
  obtain ⟨text, cursor, values, given, decoded, known, rfl⟩ := (Seek.of_cursor sought).2 seek past
  exact ⟨text, cursor, given, decoded, known.mem⟩

namespace Cursor

/-- What a cursor that a client hands in can be relied on for. Its columns differ. Its floats are
spelled in its payload, and are finite but for numbers of the 32-bit format that overflow it, so
all are if the payload spells no such number. The cursor can be written just if they are, and
nothing else than its values gets into a seek. -/
theorem decode_establishes {text : String} {cursor : Cursor} (decoded : decode text = .ok cursor) :
    (cursor.pairs.map Prod.fst).Nodup ∧
    (∃ document, payload? text = some document ∧
      (∀ pair ∈ cursor.pairs, pair.2.ReadFrom document) ∧
      ((∀ numeral, Spells document numeral → ¬ numeral.OverflowsSingle) →
        ∀ pair ∈ cursor.pairs, pair.2.isFinite = true)) ∧
    ((∃ written, cursor.encode = .ok written) ↔
      ∀ pair ∈ cursor.pairs, pair.2.isFinite = true) ∧
    ∀ (κ : Type) (config : Config) (node : Node κ) (page : KeysetPage) (seek : Seek),
      node.keysetPage config = .ok page → page.seek = some seek → node.cursor? = some text →
        ∀ value ∈ seek.values, ∃ column, (column, value) ∈ cursor.pairs := by
  obtain ⟨document, inside, read⟩ := document_of_decode decoded
  obtain ⟨distinct, values⟩ : PairsFrom document cursor.pairs := gives_reader.of_document read
  refine ⟨distinct, ⟨document, inside, values, ?finite⟩, encode_eq_ok_iff cursor, ?seeks⟩
  case finite => exact fun inRange pair member => (values pair member).isFinite inRange
  case seeks =>
    intro κ config node page seek asked past given
    obtain ⟨other, cursor', given', decoded', among⟩ := Node.seek_from_cursor asked past
    cases given.symm.trans given'
    cases decoded.symm.trans decoded'
    exact among

/-- The greatest power of ten that the 32-bit format has is read, and can be written again. -/
theorem decode_establishes_greatest :
    ∃ cursor, decode "eyJ4Ijp7IkZsb2F0IjoxZTM4fSwibiI6Ik51bGwifQ==" = .ok cursor ∧
      (cursor.pairs.map Prod.fst).Nodup ∧ ∃ written, cursor.encode = .ok written := by
  have decoded : decode "eyJ4Ijp7IkZsb2F0IjoxZTM4fSwibiI6Ik51bGwifQ==" =
      .ok ⟨[("x", .float (.finite false 9860761 103 (by decide))), ("n", .null)]⟩ := by
    decide +kernel
  obtain ⟨distinct, -, writable, -⟩ := decode_establishes decoded
  exact ⟨_, decoded, distinct, writable.mpr (by simp [Value.isFinite, Binary.isFinite])⟩

/-- The next power of ten is read as infinite, and cannot be written again. -/
theorem decode_infinite :
    ¬ ∀ cursor, decode "eyJ4Ijp7IkZsb2F0IjoxZTM5fX0=" = .ok cursor →
      (∀ pair ∈ cursor.pairs, pair.2.isFinite = true) ∧ ∃ written, cursor.encode = .ok written := by
  intro finite
  have decoded : decode "eyJ4Ijp7IkZsb2F0IjoxZTM5fX0=" =
      .ok ⟨[("x", .float (.infinite false))]⟩ := by
    decide +kernel
  cases (finite _ decoded).1 _ (.head _)

end Cursor

end PagedJoins
