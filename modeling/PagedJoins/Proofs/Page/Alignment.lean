import PagedJoins.Proofs.Outcome
import PagedJoins.Proofs.Page.Cursor

/-!
# Cursors and sort keys

A cursor has the values of a sort key just if both name the same columns, however often and in
whatever order. Else the first column of the cursor that is no column of the key is reported, and
only if there is none the first column of the key that the cursor lacks.
-/

namespace PagedJoins.Cursor

/-! ## Columns that are missing -/

/-- Is this the first of some names that is not among the known ones? -/
def FirstOutside (known names : List String) (name : String) : Prop :=
  ∃ before after, names = before ++ name :: after ∧ (∀ earlier ∈ before, earlier ∈ known) ∧
    name ∉ known

variable {known names : List String} {name : String}

theorem find?_eq_some_iff_firstOutside :
    names.find? (· ∉ known) = some name ↔ FirstOutside known names name := by
  rw [List.find?_eq_some_iff_append, FirstOutside]
  constructor
  · rintro ⟨unknown, before, after, parts, earlier⟩
    refine ⟨before, after, parts, ?_, of_decide_eq_true unknown⟩
    intro other member
    simpa using earlier other member
  · rintro ⟨before, after, parts, earlier, unknown⟩
    refine ⟨decide_eq_true unknown, before, after, parts, ?_⟩
    intro other member
    simpa using earlier other member

theorem FirstOutside.not_known (first : FirstOutside known names name) :
    ¬ ∀ name ∈ names, name ∈ known := by
  obtain ⟨before, after, rfl, -, unknown⟩ := first
  exact fun all => unknown (all name (by simp))

theorem FirstOutside.unique {other : String} (first : FirstOutside known names name)
    (first' : FirstOutside known names other) : name = other := by
  rw [← find?_eq_some_iff_firstOutside] at first first'
  exact Option.some.inj (first.symm.trans first')

/-! ## Values of columns -/

variable {cursor : Cursor} {sort : SortColumn} {sortKey : List SortColumn} {values : List Value}

/-- The columns of a sort key. -/
def keyColumns (sortKey : List SortColumn) : List String :=
  sortKey.map (·.column)

/-- The value of a column is one that the cursor pairs with it, and the only one if columns come
only once. -/
theorem get?_eq_some_iff (distinct : (columns cursor.pairs).Nodup) {column : String}
    {value : Value} : cursor.get? column = some value ↔ (column, value) ∈ cursor.pairs := by
  rw [get?, List.lookup_eq_some_iff]
  constructor
  · rintro ⟨before, after, parts, -⟩
    simp [parts]
  · intro member
    obtain ⟨before, after, parts⟩ := List.append_of_mem member
    refine ⟨before, after, parts, ?_⟩
    intro pair earlier
    rw [bne_iff_ne]
    intro same
    rw [columns, parts, List.map_append, List.map_cons, List.nodup_append] at distinct
    exact distinct.2.2 pair.1 (List.mem_map_of_mem earlier) column (List.mem_cons_self ..)
      same.symm

theorem get?_eq_none_iff {column : String} :
    cursor.get? column = none ↔ column ∉ columns cursor.pairs := by
  rw [get?, List.lookup_eq_none_iff, columns, List.mem_map]
  constructor
  · rintro other ⟨pair, member, same⟩
    exact bne_iff_ne.mp (other pair member) same.symm
  · intro absent pair member
    exact bne_iff_ne.mpr fun same => absent ⟨pair, member, same.symm⟩

theorem valueFor_eq_ok_iff {value : Value} :
    cursor.valueFor sort = .ok value ↔ cursor.get? sort.column = some value := by
  rw [valueFor]
  cases cursor.get? sort.column <;> simp

theorem mapM_valueFor_eq (cursor : Cursor) (sortKey : List SortColumn) :
    (∃ values, sortKey.mapM cursor.valueFor = .ok values ∧
      ∀ name ∈ keyColumns sortKey, name ∈ columns cursor.pairs) ∨
    ∃ column, sortKey.mapM cursor.valueFor = .error (.missingColumn column) ∧
      FirstOutside (columns cursor.pairs) (keyColumns sortKey) column := by
  induction sortKey with
  | nil => exact .inl ⟨[], rfl, nofun⟩
  | cons sort sortKey ih =>
      rw [List.mapM_cons]
      cases found : cursor.get? sort.column with
      | none =>
          right
          refine ⟨sort.column, by simp [valueFor, found]; rfl, [], keyColumns sortKey, rfl, nofun,
            get?_eq_none_iff.mp found⟩
      | some value =>
          have here : sort.column ∈ columns cursor.pairs := by
            by_contra absent
            rw [get?_eq_none_iff.mpr absent] at found
            cases found
          rw [valueFor_eq_ok_iff.mpr found]
          obtain ⟨values, each, all⟩ | ⟨column, fails, before, after, parts, earlier, absent⟩ := ih
          · left
            refine ⟨value :: values, by rw [each]; rfl, ?_⟩
            exact List.forall_mem_cons.mpr ⟨here, all⟩
          · right
            refine ⟨column, by rw [fails]; rfl, sort.column :: before, after, ?_, ?_, absent⟩
            · rw [keyColumns, List.map_cons, List.cons_append]
              exact congrArg _ parts
            · exact List.forall_mem_cons.mpr ⟨here, earlier⟩

/-! ## Alignment -/

/-- The columns of the cursor are looked through before the values are looked up. -/
theorem alignedValues_eq (cursor : Cursor) (sortKey : List SortColumn) :
    cursor.alignedValues sortKey =
      match (columns cursor.pairs).find? (· ∉ keyColumns sortKey) with
      | some column => .error (.unknownColumn column)
      | none => sortKey.mapM cursor.valueFor := by
  have same : (fun pair : String × Value => !sortKey.any (·.column = pair.1)) =
      (fun column => decide (column ∉ keyColumns sortKey)) ∘ Prod.fst := by
    funext pair
    rw [Bool.eq_iff_iff]
    simp [keyColumns]
  rw [alignedValues, columns, List.find?_map, ← same]
  cases cursor.pairs.find? fun pair => !sortKey.any (·.column = pair.1) <;> rfl

/-- How alignment ends: with a column of the cursor that is not in the key, or else with a column
of the key that is not in the cursor, or else with values. -/
theorem alignedValues_cases (cursor : Cursor) (sortKey : List SortColumn) :
    (∃ column, cursor.alignedValues sortKey = .error (.unknownColumn column) ∧
      FirstOutside (keyColumns sortKey) (columns cursor.pairs) column) ∨
    (∀ column ∈ columns cursor.pairs, column ∈ keyColumns sortKey) ∧
      ((∃ column, cursor.alignedValues sortKey = .error (.missingColumn column) ∧
        FirstOutside (columns cursor.pairs) (keyColumns sortKey) column) ∨
      (∀ column ∈ keyColumns sortKey, column ∈ columns cursor.pairs) ∧
        ∃ values, cursor.alignedValues sortKey = .ok values ∧
          sortKey.mapM cursor.valueFor = .ok values) := by
  rw [alignedValues_eq]
  cases found : (columns cursor.pairs).find? (· ∉ keyColumns sortKey) with
  | some column => exact .inl ⟨column, rfl, find?_eq_some_iff_firstOutside.mp found⟩
  | none =>
      right
      refine ⟨fun column member => by simpa using List.find?_eq_none.mp found column member, ?_⟩
      obtain ⟨values, each, all⟩ | ⟨column, fails, first⟩ := mapM_valueFor_eq cursor sortKey
      · exact .inr ⟨all, values, each, each⟩
      · exact .inl ⟨column, fails, first⟩

theorem alignedValues_eq_unknownColumn_iff {column : String} :
    cursor.alignedValues sortKey = .error (.unknownColumn column) ↔
      FirstOutside (keyColumns sortKey) (columns cursor.pairs) column := by
  obtain ⟨column', fails, first⟩ | ⟨all, ⟨column', fails, first⟩ | ⟨-, values, aligned, -⟩⟩ :=
    alignedValues_cases cursor sortKey
  · rw [fails]
    constructor
    · rintro ⟨⟩
      exact first
    · intro first'
      rw [first.unique first']
  · rw [fails]
    exact iff_of_false nofun fun first' => first'.not_known all
  · rw [aligned]
    exact iff_of_false nofun fun first' => first'.not_known all

theorem alignedValues_eq_missingColumn_iff {column : String} :
    cursor.alignedValues sortKey = .error (.missingColumn column) ↔
      (∀ name ∈ columns cursor.pairs, name ∈ keyColumns sortKey) ∧
        FirstOutside (columns cursor.pairs) (keyColumns sortKey) column := by
  obtain ⟨column', fails, first⟩ | ⟨all, ⟨column', fails, first⟩ | ⟨all', values, aligned, -⟩⟩ :=
    alignedValues_cases cursor sortKey
  · rw [fails]
    exact iff_of_false nofun fun missing => first.not_known missing.1
  · rw [fails]
    constructor
    · rintro ⟨⟩
      exact ⟨all, first⟩
    · rintro ⟨-, first'⟩
      rw [first.unique first']
  · rw [aligned]
    exact iff_of_false nofun fun missing => missing.2.not_known all'

/-- A cursor has values for a key just if both have the same columns, and the values are those that
the cursor pairs with the columns of the key. -/
theorem alignedValues_eq_ok_iff (distinct : (columns cursor.pairs).Nodup) :
    cursor.alignedValues sortKey = .ok values ↔
      (∀ column, column ∈ columns cursor.pairs ↔ column ∈ keyColumns sortKey) ∧
        List.Forall₂ (fun sort value => (sort.column, value) ∈ cursor.pairs) sortKey values := by
  have paired : sortKey.mapM cursor.valueFor = .ok values ↔
      List.Forall₂ (fun sort value => (sort.column, value) ∈ cursor.pairs) sortKey values := by
    simp only [mapM_eq_ok_iff, valueFor_eq_ok_iff, get?_eq_some_iff distinct]
  obtain ⟨column', fails, first⟩ |
    ⟨all, ⟨column', fails, first⟩ | ⟨all', values', aligned, each⟩⟩ :=
    alignedValues_cases cursor sortKey
  · rw [fails]
    exact iff_of_false nofun fun same => first.not_known fun column => (same.1 column).mp
  · rw [fails]
    exact iff_of_false nofun fun same => first.not_known fun column => (same.1 column).mpr
  · rw [aligned, ← each, paired]
    exact ⟨fun pairs => ⟨fun column => ⟨all column, all' column⟩, pairs⟩, And.right⟩

theorem firstOutside_ofRow {row : List Value} (distinct : (keyColumns sortKey).Nodup)
    (fewer : row.length < sortKey.length) :
    FirstOutside (columns (ofRow sortKey row).pairs) (keyColumns sortKey)
      sortKey[row.length].column := by
  have covered : columns (ofRow sortKey row).pairs = (keyColumns sortKey).take row.length := by
    have few : row.length ≤ (sortKey.map (·.column)).length := by
      rw [List.length_map]
      exact Nat.le_of_lt fewer
    have short : ((sortKey.map (·.column)).take row.length).length ≤
        (row.take row.length).length := by
      rw [List.length_take, List.take_length]
      exact Nat.min_le_left ..
    rw [columns, ofRow, List.zip_eq_zip_take_min, Nat.min_eq_right few, List.map_fst_zip short]
    rfl
  have inside : row.length < (keyColumns sortKey).length := by
    rwa [keyColumns, List.length_map]
  have parts : keyColumns sortKey = (keyColumns sortKey).take row.length ++
      sortKey[row.length].column :: (keyColumns sortKey).drop (row.length + 1) := by
    have here : (keyColumns sortKey)[row.length] = sortKey[row.length].column :=
      List.getElem_map ..
    rw [← here, ← List.drop_eq_getElem_cons inside, List.take_append_drop]
  rw [covered]
  refine ⟨_, _, parts, fun column => id, ?_⟩
  rw [parts, List.nodup_append] at distinct
  exact fun earlier => distinct.2.2 _ earlier _ (List.mem_cons_self ..) rfl

/-- The values of a sort key are aligned exactly. A cursor whose columns differ has values for a
sort key just if both have the same columns, and then these are, column by column of the key, what
the cursor pairs with the column, in whatever order its pairs are. If it has a column that is not in
the key, the first one is reported, whatever else is missing, and otherwise the first column of the
key that it lacks. So the cursor of a row gives the row's first values back, if the columns of the
key differ and the row has enough values, and otherwise the first column without a value. -/
theorem alignedValues_exact (cursor : Cursor) (distinct : (columns cursor.pairs).Nodup)
    (sortKey : List SortColumn) :
    ((∃ values, cursor.alignedValues sortKey = .ok values) ↔
      ∀ column, column ∈ columns cursor.pairs ↔ column ∈ keyColumns sortKey) ∧
    (∀ values, cursor.alignedValues sortKey = .ok values →
      List.Forall₂ (fun sort value => (sort.column, value) ∈ cursor.pairs) sortKey values ∧
      ∀ pairs, pairs.Perm cursor.pairs →
        alignedValues ⟨pairs⟩ sortKey = .ok values) ∧
    (∀ column, cursor.alignedValues sortKey = .error (.unknownColumn column) ↔
      FirstOutside (keyColumns sortKey) (columns cursor.pairs) column) ∧
    (∀ column, cursor.alignedValues sortKey = .error (.missingColumn column) ↔
      (∀ name ∈ columns cursor.pairs, name ∈ keyColumns sortKey) ∧
        FirstOutside (columns cursor.pairs) (keyColumns sortKey) column) ∧
    ((keyColumns sortKey).Nodup → ∀ row : List Value,
      (sortKey.length ≤ row.length →
        (ofRow sortKey row).alignedValues sortKey = .ok (row.take sortKey.length)) ∧
      ∀ fewer : row.length < sortKey.length, (ofRow sortKey row).alignedValues sortKey =
        .error (.missingColumn sortKey[row.length].column)) := by
  refine ⟨?succeeds, ?values, fun _ => alignedValues_eq_unknownColumn_iff,
    fun _ => alignedValues_eq_missingColumn_iff, ?rows⟩
  case succeeds =>
    constructor
    · rintro ⟨values, aligned⟩
      exact ((alignedValues_eq_ok_iff distinct).mp aligned).1
    · intro same
      obtain ⟨_, -, first⟩ | ⟨-, ⟨_, -, first⟩ | ⟨-, values, aligned, -⟩⟩ :=
        alignedValues_cases cursor sortKey
      · exact absurd (fun column => (same column).mp) first.not_known
      · exact absurd (fun column => (same column).mpr) first.not_known
      · exact ⟨values, aligned⟩
  case values =>
    intro values aligned
    obtain ⟨same, paired⟩ := (alignedValues_eq_ok_iff distinct).mp aligned
    refine ⟨paired, ?_⟩
    intro pairs moved
    have named : (columns pairs).Perm (columns cursor.pairs) := moved.map Prod.fst
    rw [alignedValues_eq_ok_iff (named.nodup_iff.mpr distinct)]
    refine ⟨fun column => named.mem_iff.trans (same column), ?_⟩
    exact paired.imp fun _ _ => moved.mem_iff.mpr
  case rows =>
    intro differ row
    refine ⟨alignedValues_ofRow differ, ?_⟩
    intro fewer
    have first := firstOutside_ofRow differ fewer
    refine alignedValues_eq_missingColumn_iff.mpr ⟨?_, first⟩
    intro column member
    obtain ⟨pair, inside, rfl⟩ := List.mem_map.mp member
    exact (List.of_mem_zip inside).1

/-- A post by the time that it was created at. -/
def newPost : Cursor where
  pairs := [("created_at", .null), ("id", .text "7")]

/-- The values of a post come in the order of the key when its cursor is turned round. With a column
too many and another one missing the unknown one is reported, and a row of one value is too
short. -/
theorem alignedValues_exact_newPost :
    (columns newPost.pairs).Nodup ∧
      alignedValues ⟨newPost.pairs.reverse⟩ [⟨"created_at", .desc⟩, ⟨"id", .desc⟩] =
        .ok [.null, .text "7"] ∧
      newPost.alignedValues [⟨"created_at", .desc⟩, ⟨"score", .desc⟩] =
        .error (.unknownColumn "id") ∧
      (ofRow [⟨"created_at", .desc⟩, ⟨"id", .desc⟩] [.null]).alignedValues
        [⟨"created_at", .desc⟩, ⟨"id", .desc⟩] = .error (.missingColumn "id") := by
  have distinct : (columns newPost.pairs).Nodup := by decide
  obtain ⟨-, values, -, -, rows⟩ :=
    alignedValues_exact newPost distinct [⟨"created_at", .desc⟩, ⟨"id", .desc⟩]
  obtain ⟨-, -, unknown, -⟩ :=
    alignedValues_exact newPost distinct [⟨"created_at", .desc⟩, ⟨"score", .desc⟩]
  refine ⟨distinct, ?_, (unknown "id").mpr ?_, (rows (by decide) [.null]).2 (by decide)⟩
  · exact (values [.null, .text "7"] rfl).2 _ (List.reverse_perm _)
  · exact ⟨["created_at"], [], rfl, by decide, by decide⟩

end PagedJoins.Cursor
