import PagedJoins.Page.Cursor
import PagedJoins.Proofs.Value.Json
import PagedJoins.Proofs.Text.Base64

/-!
# Cursors read back

A cursor that can be written is read back pair by pair, as long as its columns differ; the
first column that comes again makes it malformed. Reading is a fold over the pairs, so
both outcomes come from one invariant: what has been read so far is the pairs so far, and
their columns differ.
-/

namespace PagedJoins.Cursor

open Json.Reader

/-- The pairs that have been read, with one more; a column comes only once. -/
def extend (pairs : List (String × Value)) (pair : String × Value) :
    Except Json.Fault (List (String × Value)) :=
  if pairs.any (·.1 = pair.1) then .error (.duplicate pair.1) else .ok (pairs ++ [pair])

/-- The columns of a cursor, in order. -/
def columns (pairs : List (String × Value)) : List String :=
  pairs.map Prod.fst

theorem extend_of_fresh {read : List (String × Value)} {pair : String × Value}
    (fresh : pair.1 ∉ columns read) : extend read pair = .ok (read ++ [pair]) := by
  have absent : read.any (·.1 = pair.1) = false := by
    rw [List.any_eq_false]
    intro other member same
    exact fresh (List.mem_map.mpr ⟨other, member, of_decide_eq_true same⟩)
  rw [extend, absent]
  rfl

theorem extend_of_known {read : List (String × Value)} {pair : String × Value}
    (known : pair.1 ∈ columns read) : extend read pair = .error (.duplicate pair.1) := by
  obtain ⟨other, member, same⟩ := List.mem_map.mp known
  have present : read.any (·.1 = pair.1) = true :=
    List.any_eq_true.mpr ⟨other, member, decide_eq_true same⟩
  rw [extend, present]
  rfl

theorem foldlM_extend_of_nodup {read pairs : List (String × Value)}
    (distinct : (columns (read ++ pairs)).Nodup) :
    pairs.foldlM extend read = .ok (read ++ pairs) := by
  induction pairs generalizing read with
  | nil =>
      rw [List.append_nil]
      rfl
  | cons pair pairs ih =>
      have fresh : pair.1 ∉ columns read := by
        simp only [columns, List.map_append, List.map_cons] at distinct ⊢
        intro known
        exact (List.nodup_append.mp distinct).2.2 _ known _ (List.mem_cons_self ..) rfl
      have regrouped : read ++ pair :: pairs = read ++ [pair] ++ pairs := by simp
      rw [List.foldlM_cons, extend_of_fresh fresh]
      rw [regrouped] at distinct ⊢
      exact ih distinct

theorem foldlM_extend_of_duplicate {read pairs : List (String × Value)}
    (distinct : (columns read).Nodup) (again : ¬ (columns (read ++ pairs)).Nodup) :
    ∃ column, pairs.foldlM extend read = .error (.duplicate column) := by
  induction pairs generalizing read with
  | nil =>
      rw [List.append_nil] at again
      exact absurd distinct again
  | cons pair pairs ih =>
      by_cases known : pair.1 ∈ columns read
      · refine ⟨pair.1, ?_⟩
        rw [List.foldlM_cons, extend_of_known known]
        rfl
      · have regrouped : read ++ pair :: pairs = read ++ [pair] ++ pairs := by simp
        have longer : (columns (read ++ [pair])).Nodup := by
          simp only [columns, List.map_append, List.map_cons, List.map_nil] at known ⊢
          exact List.nodup_append.mpr ⟨distinct, by simp, by
            intro column member other single same
            rw [List.mem_singleton.mp single] at same
            exact known (same ▸ member)⟩
        rw [regrouped] at again
        obtain ⟨column, reported⟩ := ih longer again
        refine ⟨column, ?_⟩
        rw [List.foldlM_cons, extend_of_fresh known]
        exact reported

theorem takes_extend {back : Value → Value} {pair : String × Value}
    (reads : Value.reader.Reads pair.2.toJson.toList (back pair.2)) :
    Takes Value.toJson (fun pairs column => do
      let value ← Value.reader
      if pairs.any (·.1 = column) then throw (.duplicate column)
      else return pairs ++ [(column, value)])
        (fun read pair => extend read (pair.1, back pair.2)) pair := by
  intro read rest
  rw [run_bind_of_ok (reads rest)]
  dsimp only [extend]
  by_cases known : read.any (·.1 = pair.1) = true
  · rw [if_pos known, if_pos known]
    rfl
  · rw [if_neg known, if_neg known]
    rfl

/-- The cursor with its values replaced. -/
def mapValues (cursor : Cursor) (back : Value → Value) : Cursor :=
  ⟨cursor.pairs.map fun (column, value) => (column, back value)⟩

theorem mapValues_id (cursor : Cursor) : cursor.mapValues id = cursor := by
  rw [mapValues]
  exact congrArg Cursor.mk (List.map_id _)

theorem columns_mapValues (cursor : Cursor) (back : Value → Value) :
    columns (cursor.mapValues back).pairs = columns cursor.pairs := by
  rw [columns, columns, mapValues, List.map_map]
  rfl

/-- A written cursor is read as the fold of its pairs, with what their values are read as. -/
theorem document_toJson_of_reads (back : Value → Value) {cursor : Cursor}
    (reads : ∀ pair ∈ cursor.pairs, Value.reader.Reads pair.2.toJson.toList (back pair.2)) :
    reader.document cursor.toJson.toList =
      ((cursor.mapValues back).pairs.foldlM extend []).map Cursor.mk := by
  have taken := run_object (fun pair member => takes_extend (reads pair member)) [] []
  rw [List.append_nil] at taken
  rw [toJson, document, reader, map_eq_pure_bind, StateT.run_bind, taken, mapValues,
    List.foldlM_map]
  cases cursor.pairs.foldlM (fun read pair => extend read (pair.1, back pair.2)) [] with
  | error fault => rfl
  | ok pairs => rfl

theorem document_toJson {cursor : Cursor}
    (readsBack : ∀ pair ∈ cursor.pairs, pair.2.ReadsBack) :
    reader.document cursor.toJson.toList = (cursor.pairs.foldlM extend []).map Cursor.mk := by
  have read := document_toJson_of_reads id readsBack
  rw [mapValues_id] at read
  exact read

theorem encode_of_finite {cursor : Cursor} (finite : ∀ pair ∈ cursor.pairs, pair.2.isFinite) :
    cursor.encode =
      .ok (String.ofList (Text.Base64.encode (Text.Utf8.encode cursor.toJson))) := by
  unfold encode
  split
  · rename_i column value found
    have infinite := List.find?_some found
    dsimp only at infinite
    rw [finite _ (List.mem_of_find?_eq_some found)] at infinite
    cases infinite
  · rfl

theorem decode_padded (cursor : Cursor) {before after : String}
    (blankBefore : Text.isBlank before = true) (blankAfter : Text.isBlank after = true) :
    decode (before ++ String.ofList (Text.Base64.encode (Text.Utf8.encode cursor.toJson)) ++
        after) =
      match reader.document cursor.toJson.toList with
      | .ok cursor => .ok cursor
      | .error .malformed => .error .badPayload
      | .error (.duplicate column) => .error (.duplicateColumn column) := by
  have trimmed := Text.trimChars_padded (List.all_eq_true.mp blankBefore)
    (Text.Base64.encode_not_whiteSpace (Text.Utf8.encode cursor.toJson))
    (List.all_eq_true.mp blankAfter)
  have chars : (before ++ String.ofList (Text.Base64.encode (Text.Utf8.encode cursor.toJson)) ++
      after).toList = before.toList ++ Text.Base64.encode (Text.Utf8.encode cursor.toJson) ++
        after.toList := by
    simp
  cases read : reader.document cursor.toJson.toList with
  | ok cursor =>
      simp only [decode, chars, trimmed, Text.Base64.decode_encode, Text.Utf8.chars_encode, read]
  | error fault =>
      cases fault <;>
        simp only [decode, chars, trimmed, Text.Base64.decode_encode, Text.Utf8.chars_encode, read]

theorem decode_padded_of_reads (back : Value → Value) {cursor : Cursor}
    (reads : ∀ pair ∈ cursor.pairs, Value.reader.Reads pair.2.toJson.toList (back pair.2))
    (distinct : (columns cursor.pairs).Nodup) {before after : String}
    (blankBefore : Text.isBlank before = true) (blankAfter : Text.isBlank after = true) :
    decode (before ++ String.ofList (Text.Base64.encode (Text.Utf8.encode cursor.toJson)) ++
        after) = .ok (cursor.mapValues back) := by
  have kept : (cursor.mapValues back).pairs.foldlM extend [] =
      .ok ([] ++ (cursor.mapValues back).pairs) :=
    foldlM_extend_of_nodup (by rw [List.nil_append, columns_mapValues]; exact distinct)
  rw [decode_padded cursor blankBefore blankAfter, document_toJson_of_reads back reads, kept]
  rfl

/-- A cursor whose columns differ is read back as it was. -/
theorem decode_padded_of_nodup {cursor : Cursor}
    (readsBack : ∀ pair ∈ cursor.pairs, pair.2.ReadsBack)
    (distinct : (columns cursor.pairs).Nodup) {before after : String}
    (blankBefore : Text.isBlank before = true) (blankAfter : Text.isBlank after = true) :
    decode (before ++ String.ofList (Text.Base64.encode (Text.Utf8.encode cursor.toJson)) ++
        after) = .ok cursor := by
  have read := decode_padded_of_reads id readsBack distinct blankBefore blankAfter
  rw [mapValues_id] at read
  exact read

/-- A cursor that has a column twice is refused for such a column. -/
theorem decode_padded_of_duplicate {cursor : Cursor}
    (readsBack : ∀ pair ∈ cursor.pairs, pair.2.ReadsBack)
    (again : ¬ (columns cursor.pairs).Nodup) {before after : String}
    (blankBefore : Text.isBlank before = true) (blankAfter : Text.isBlank after = true) :
    ∃ column,
      decode (before ++ String.ofList (Text.Base64.encode (Text.Utf8.encode cursor.toJson)) ++
        after) = .error (.duplicateColumn column) := by
  obtain ⟨column, reported⟩ : ∃ column,
      cursor.pairs.foldlM extend [] = .error (.duplicate column) :=
    foldlM_extend_of_duplicate List.nodup_nil again
  refine ⟨column, ?_⟩
  rw [decode_padded cursor blankBefore blankAfter, document_toJson readsBack, reported]
  rfl

theorem isFinite_of_kind_ne_float {value : Value} (notFloat : value.kind ≠ .float) :
    value.isFinite = true := by
  cases value with
  | float x => exact absurd rfl notFloat
  | double x => exact absurd rfl notFloat
  | _ => rfl

theorem encode_of_kind_ne_float {cursor : Cursor}
    (notFloat : ∀ pair ∈ cursor.pairs, pair.2.kind ≠ .float) :
    cursor.encode =
      .ok (String.ofList (Text.Base64.encode (Text.Utf8.encode cursor.toJson))) :=
  encode_of_finite fun pair member => isFinite_of_kind_ne_float (notFloat pair member)

/-- Nothing is lost in a cursor: it can be written, and read again, with or without white
space around it, it is the same cursor, provided that its columns differ. If two of them
are the same, it is refused as malformed. -/
theorem decode_encode_lossless (cursor : Cursor)
    (notFloat : ∀ pair ∈ cursor.pairs, pair.2.kind ≠ .float) :
    ∃ text, cursor.encode = .ok text ∧
      ∀ before after : String, Text.isBlank before = true → Text.isBlank after = true →
        ((cursor.pairs.map Prod.fst).Nodup →
          decode (before ++ text ++ after) = .ok cursor) ∧
        (¬ (cursor.pairs.map Prod.fst).Nodup →
          ∃ fault, decode (before ++ text ++ after) = .error fault ∧
            fault.kind = .malformed) := by
  have readsBack : ∀ pair ∈ cursor.pairs, pair.2.ReadsBack := by
    intro pair member
    exact Value.readsBack_of_kind_ne_float (notFloat pair member)
  refine ⟨_, encode_of_kind_ne_float notFloat, ?_⟩
  intro before after blankBefore blankAfter
  constructor
  · intro distinct
    exact decode_padded_of_nodup readsBack distinct blankBefore blankAfter
  · intro again
    obtain ⟨column, refused⟩ := decode_padded_of_duplicate readsBack again blankBefore blankAfter
    exact ⟨.duplicateColumn column, refused, rfl⟩

/-- A cursor with the awkward cases of both kinds: an empty column and one with a quote, a
backslash and a control in it, the least integer of 64 bits, and a text of other scripts. -/
def awkward : Cursor where
  pairs := [("", .null), ("a\"\\\n\x01", .integer .big ⟨-9223372036854775808, by decide⟩),
    ("é", .text "\x00 ' 😀"), ("b", .decimal "not a number")]

/-- The awkward cursor survives, and is refused once its first column comes again. -/
theorem decode_encode_lossless_awkward :
    (∀ pair ∈ awkward.pairs, pair.2.kind ≠ .float) ∧
      (∃ text, awkward.encode = .ok text ∧ decode ("\t" ++ text ++ " ") = .ok awkward) ∧
      ∃ text fault, (Cursor.mk (awkward.pairs ++ [("", .bool true)])).encode = .ok text ∧
        decode text = .error fault ∧ fault.kind = .malformed := by
  refine ⟨by decide, ?_, ?_⟩
  · obtain ⟨text, written, read⟩ := decode_encode_lossless awkward (by decide)
    exact ⟨text, written, (read "\t" " " (by decide) (by decide)).1 (by decide)⟩
  · obtain ⟨text, written, read⟩ :=
      decode_encode_lossless ⟨awkward.pairs ++ [("", .bool true)]⟩ (by decide)
    obtain ⟨fault, refused, malformed⟩ := (read "" "" (by decide) (by decide)).2 (by decide)
    refine ⟨text, fault, written, ?_, malformed⟩
    simpa using refused

/-! ## Cursors of rows -/

/-- The value that a cursor has for a column of a sort key. -/
def valueFor (cursor : Cursor) (sort : SortColumn) : Except CursorFault Value :=
  match cursor.get? sort.column with
  | some value => .ok value
  | none => .error (.missingColumn sort.column)

theorem valueFor_of_fresh {before after : List (String × Value)} {sort : SortColumn}
    (fresh : sort.column ∉ columns before) (value : Value) :
    valueFor ⟨before ++ (sort.column, value) :: after⟩ sort = .ok value := by
  have skipped : before.lookup sort.column = none := by
    rw [List.lookup_eq_none_iff]
    intro pair member
    rw [bne_iff_ne]
    intro same
    exact fresh (List.mem_map.mpr ⟨pair, member, same.symm⟩)
  have found : (before ++ (sort.column, value) :: after).lookup sort.column = some value := by
    rw [List.lookup_append, skipped, List.lookup_cons_self]
    rfl
  rw [valueFor, get?, found]

theorem mapM_valueFor {sortKey : List SortColumn} {before : List (String × Value)}
    {row : List Value} (distinct : (columns before ++ sortKey.map (·.column)).Nodup)
    (enough : sortKey.length ≤ row.length) :
    sortKey.mapM (valueFor ⟨before ++ (ofRow sortKey row).pairs⟩) =
      .ok (row.take sortKey.length) := by
  induction sortKey generalizing before row with
  | nil => rfl
  | cons sort sortKey ih =>
      cases row with
      | nil => exact absurd enough (Nat.not_succ_le_zero _)
      | cons value row =>
          have fresh : sort.column ∉ columns before := by
            intro known
            exact (List.nodup_append.mp distinct).2.2 _ known _ (List.mem_cons_self ..) rfl
          have regrouped : before ++ (ofRow (sort :: sortKey) (value :: row)).pairs =
              before ++ [(sort.column, value)] ++ (ofRow sortKey row).pairs := by
            simp [ofRow]
          have moved : (columns (before ++ [(sort.column, value)]) ++
              sortKey.map (·.column)).Nodup := by
            simpa [columns] using distinct
          have found : valueFor ⟨before ++ (ofRow (sort :: sortKey) (value :: row)).pairs⟩ sort =
              .ok value :=
            valueFor_of_fresh fresh value
          rw [List.mapM_cons, found, regrouped, ih moved (Nat.le_of_succ_le_succ enough)]
          rfl

/-- The cursor of a row gives back the values of the row, if the columns of the sort key
differ and the row has a value for each of them. -/
theorem alignedValues_ofRow {sortKey : List SortColumn} {row : List Value}
    (distinct : (sortKey.map (·.column)).Nodup) (enough : sortKey.length ≤ row.length) :
    (ofRow sortKey row).alignedValues sortKey = .ok (row.take sortKey.length) := by
  unfold alignedValues
  split
  · rename_i column value found
    have unknown := List.find?_some found
    dsimp only at unknown
    have member := List.mem_of_find?_eq_some found
    obtain ⟨sort, among, named⟩ := List.mem_map.mp (List.of_mem_zip member).1
    have present : sortKey.any (·.column = column) = true :=
      List.any_eq_true.mpr ⟨sort, among, decide_eq_true named⟩
    rw [present] at unknown
    cases unknown
  · have aligned : sortKey.mapM (valueFor ⟨[] ++ (ofRow sortKey row).pairs⟩) =
        .ok (row.take sortKey.length) :=
      mapM_valueFor distinct enough
    exact aligned

theorem columns_ofRow {sortKey : List SortColumn} {row : List Value}
    (enough : sortKey.length ≤ row.length) :
    columns (ofRow sortKey row).pairs = sortKey.map (·.column) := by
  have shorter : (sortKey.map (·.column)).length ≤ row.length := by
    rw [List.length_map]
    exact enough
  exact List.map_fst_zip shorter

/-- The cursor of a row of other values than floats can be written, and what a client hands
back is read as the same cursor. -/
theorem encode_ofRow {sortKey : List SortColumn} {row : List Value}
    (distinct : (sortKey.map (·.column)).Nodup) (enough : sortKey.length ≤ row.length)
    (notFloat : ∀ value ∈ row, value.kind ≠ .float) :
    ∃ text, (ofRow sortKey row).encode = .ok text ∧ decode text = .ok (ofRow sortKey row) := by
  have among : ∀ pair ∈ (ofRow sortKey row).pairs, pair.2.kind ≠ .float := by
    intro pair member
    exact notFloat pair.2 (List.of_mem_zip member).2
  have differ : (columns (ofRow sortKey row).pairs).Nodup := by
    rw [columns_ofRow enough]
    exact distinct
  have read := decode_padded_of_nodup
    (fun pair member => Value.readsBack_of_kind_ne_float (among pair member)) differ
    (rfl : Text.isBlank "" = true) (rfl : Text.isBlank "" = true)
  refine ⟨_, encode_of_kind_ne_float among, ?_⟩
  simpa using read

end PagedJoins.Cursor
