import PagedJoins.Page.Paging
import PagedJoins.Proofs.Outcome
import PagedJoins.Proofs.Sql.Truth

/-!
# Seeks that were asked for

A page by sort key has a seek if its arguments have a cursor. The sort key has columns and
the cursor has a value for each of them, so the seek never fails to give a condition, and
that condition is never blank.
-/

namespace PagedJoins

/-! ## Conditions with a text -/

theorem Condition.render_not_blank (condition : Condition String String) :
    Text.isBlank condition.render = false := by
  rw [Text.isBlank, List.all_eq_false]
  cases condition with
  | compare left operator right =>
      cases operator with
      | less => exact ⟨'<', by simp [render, Comparator.symbol], by decide⟩
      | equal => exact ⟨'=', by simp [render, Comparator.symbol], by decide⟩
      | greater => exact ⟨'>', by simp [render, Comparator.symbol], by decide⟩
  | compareRows left operator right => exact ⟨'(', by simp [render, row], by decide⟩
  | and left right => exact ⟨'(', by simp [render], by decide⟩
  | or left right => exact ⟨'(', by simp [render], by decide⟩

theorem Seek.render?_eq_some {seek : Seek} (nonempty : seek.columns ≠ [])
    (same : seek.values.length = seek.columns.length) (dialect : Dialect) :
    ∃ text, seek.render? dialect = some text ∧ Text.isBlank text = false := by
  have columns : (seek.columns.map fun sort =>
      (dialect.qualify seek.table sort.column, sort.direction)) ≠ [] :=
    fun none => nonempty (List.map_eq_nil_iff.mp none)
  have bounds : (seek.values.map dialect.literal).length = (seek.columns.map fun sort =>
      (dialect.qualify seek.table sort.column, sort.direction)).length := by
    rw [List.length_map, List.length_map, same]
  obtain ⟨condition, built, -⟩ :=
    Seek.condition?_describes dialect.comparesRows columns bounds
  refine ⟨condition.render, ?_, condition.render_not_blank⟩
  simp only [Seek.render?, built]
  rfl

/-! ## Values of a cursor -/

/-- Are these the values that a cursor has for some columns, one by one? -/
def Cursor.HasValues (cursor : Cursor) (columns : List SortColumn) (values : List Value) : Prop :=
  List.Forall₂ (fun sort value => cursor.get? sort.column = some value) columns values

theorem Cursor.hasValues_of_alignedValues {cursor : Cursor} {columns : List SortColumn}
    {values : List Value} (aligned : cursor.alignedValues columns = .ok values) :
    cursor.HasValues columns values := by
  unfold alignedValues at aligned
  split at aligned
  · cases aligned
  · apply (mapM_eq_ok_iff.mp aligned).imp
    intro sort value found
    split at found
    · rename_i known
      cases found
      exact known
    · cases found

/-- A text has values for a sort key if it is a cursor with these values. -/
theorem cursorValues_eq_ok_iff {text : String} {sortKey : List SortColumn} {values : List Value} :
    cursorValues text sortKey = .ok values ↔
      ∃ cursor, Cursor.decode text = .ok cursor ∧ cursor.alignedValues sortKey = .ok values := by
  constructor
  · intro known
    exact exists_of_bind_eq_ok (eq_ok_of_mapError_eq_ok known)
  · intro known
    obtain ⟨cursor, decoded, aligned⟩ := known
    rw [cursorValues, decoded]
    change Except.mapError _ (cursor.alignedValues sortKey) = _
    rw [aligned]
    rfl

theorem Seek.of_cursor {cursor : Option String} {sortKey : List SortColumn}
    {place : List Value → Seek} {seek : Option Seek}
    (sought : cursor.mapM (fun text => do
      let values ← cursorValues text sortKey
      return place values) = .ok seek) :
    seek.isSome = cursor.isSome ∧
      ∀ past, seek = some past → ∃ text decoded values, cursor = some text ∧
        Cursor.decode text = .ok decoded ∧ decoded.HasValues sortKey values ∧
        past = place values := by
  cases cursor with
  | none =>
      cases sought
      exact ⟨rfl, nofun⟩
  | some text =>
      rw [Option.mapM_some] at sought
      obtain ⟨past, made, rfl⟩ := exists_of_map_eq_ok sought
      obtain ⟨values, known, result⟩ := exists_of_bind_eq_ok made
      obtain ⟨decoded, read, aligned⟩ := cursorValues_eq_ok_iff.mp known
      cases result
      refine ⟨rfl, ?_⟩
      intro past same
      cases same
      exact ⟨text, decoded, values, rfl, read, Cursor.hasValues_of_alignedValues aligned, rfl⟩

/-! ## Pages -/

variable {κ : Type}

/-- A relation asks for this page by sort key just if it has a sort key with columns, its arguments
go together, the page has a bound that the settings allow, and the cursor of the page, if there is
one, has the values of the sort key. -/
theorem Node.keysetPage_eq_ok_iff {config : Config} {node : Node κ} {page : KeysetPage} :
    node.keysetPage config = .ok page ↔
      ∃ base, node.sortOrder? = some base ∧ base.columns ≠ [] ∧ node.args.keysetFault? = none ∧
        config.pageLimit (node.args.first <|> node.args.last) = .ok page.limit ∧
        page.backward = node.args.isBackward ∧
        page.order = (if node.args.isBackward then base.reversed else base) ∧
        (if node.args.isBackward then node.args.before else node.args.after).mapM
          (fun text => do
            let values ← cursorValues text base.columns
            return ({ table := base.table, columns := page.order.columns, values } : Seek)) =
          .ok page.seek := by
  unfold Node.keysetPage
  constructor
  · intro asked
    cases sorted : node.sortOrder? with
    | none =>
        rw [sorted] at asked
        cases asked
    | some base =>
        rw [sorted] at asked
        dsimp only at asked
        split at asked
        · obtain ⟨_, refused, -⟩ := exists_of_bind_eq_ok asked
          cases refused
        · rename_i nonempty
          split at asked
          · obtain ⟨_, refused, -⟩ := exists_of_bind_eq_ok asked
            cases refused
          · rename_i together
            have fit : node.args.keysetFault? = none :=
              Option.eq_none_iff_forall_ne_some.mpr together
            obtain ⟨limit, bounded, rest⟩ := exists_of_bind_eq_ok asked
            obtain ⟨seek, sought, result⟩ := exists_of_bind_eq_ok rest
            cases result
            exact ⟨base, rfl, nonempty, fit, eq_ok_of_mapError_eq_ok bounded, rfl, rfl, sought⟩
  · intro meets
    obtain ⟨base, sorted, nonempty, fit, bounded, backward, turned, sought⟩ := meets
    rw [turned] at sought
    simp only [sorted, nonempty, fit, bounded, sought]
    cases page
    cases backward
    cases turned
    rfl

/-- What a page by sort key is made of: an order with columns, which is turned round for a page
backward, and the seek of a cursor if there is one. -/
theorem Node.keysetPage_eq_ok {config : Config} {node : Node κ} {page : KeysetPage}
    (asked : node.keysetPage config = .ok page) :
    ∃ base, node.sortOrder? = some base ∧ base.columns ≠ [] ∧
      page.order = (if node.args.isBackward then base.reversed else base) ∧
      (if node.args.isBackward then node.args.before else node.args.after).mapM
        (fun text => do
          let values ← cursorValues text base.columns
          return ({ table := base.table, columns := page.order.columns, values } : Seek)) =
        .ok page.seek := by
  obtain ⟨base, sorted, nonempty, -, -, -, turned, sought⟩ := Node.keysetPage_eq_ok_iff.mp asked
  exact ⟨base, sorted, nonempty, turned, sought⟩

/-- The seek of a page is about the table of the page's order; it has columns, and a value for each
of them. -/
theorem Node.keysetPage_seek {config : Config} {node : Node κ} {page : KeysetPage} {seek : Seek}
    (asked : node.keysetPage config = .ok page) (past : page.seek = some seek) :
    seek.table = page.order.table ∧ seek.columns ≠ [] ∧
      seek.values.length = seek.columns.length := by
  obtain ⟨base, -, nonempty, turned, sought⟩ := Node.keysetPage_eq_ok asked
  have columns : page.order.table = base.table ∧ page.order.columns ≠ [] ∧
      page.order.columns.length = base.columns.length := by
    rw [turned]
    cases node.args.isBackward with
    | true => simpa [Order.reversed] using nonempty
    | false => exact ⟨rfl, nonempty, rfl⟩
  obtain ⟨table, some, long⟩ := columns
  obtain ⟨text, decoded, values, -, -, known, rfl⟩ := (Seek.of_cursor sought).2 seek past
  exact ⟨table.symm, some, known.length_eq.symm.trans long.symm⟩

theorem Node.paging_eq_ok {config : Config} {node : Node κ} {paging : Paging}
    (asked : node.paging config = .ok paging) :
    (∃ page, node.keysetPage config = .ok page ∧ paging = .keyset page) ∨
      (∃ page, node.offsetPage config = .ok page ∧ paging = .offset page) ∨
      paging = .unpaginated := by
  unfold Node.paging at asked
  split at asked
  · cases asked
  · split at asked
    · obtain ⟨page, read, rfl⟩ := exists_of_map_eq_ok asked
      exact .inl ⟨page, read, rfl⟩
    · split at asked
      · obtain ⟨page, read, rfl⟩ := exists_of_map_eq_ok asked
        exact .inr (.inl ⟨page, read, rfl⟩)
      · cases asked
        exact .inr (.inr rfl)

/-- The seek of a page that a relation asks for has a text, which is not blank. -/
theorem Node.paging_seek_renders {config : Config} {node : Node κ} {page : KeysetPage}
    {seek : Seek} (asked : node.paging config = .ok (.keyset page))
    (past : page.seek = some seek) (dialect : Dialect) :
    ∃ text, seek.render? dialect = some text ∧ Text.isBlank text = false := by
  obtain ⟨_, paged, same⟩ | ⟨_, -, other⟩ | none := Node.paging_eq_ok asked
  · cases same
    obtain ⟨-, nonempty, long⟩ := Node.keysetPage_seek paged past
    exact Seek.render?_eq_some nonempty long dialect
  · cases other
  · cases none

end PagedJoins
