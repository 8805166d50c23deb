import PagedJoins.Proofs.Outcome
import PagedJoins.Proofs.Page.OffsetCursor
import PagedJoins.Proofs.Sql.Window

/-!
# Pages by position tile the rows

A client that reads pages by position goes on behind the position of the last row that it has
met. Each page starts where the one before it ended, so the pages put together are the rows.
They are no more than can be counted, so behind every row there is a position.
-/

namespace PagedJoins

variable {κ α : Type}

/-- The position of the first row of a page. -/
def OffsetPage.start (page : OffsetPage) : Nat :=
  page.offset.elim 0 UInt64.toNat

/-- The rows of a page. -/
def OffsetPage.take (page : OffsetPage) (rows : List α) : List α :=
  page.limit.take (rows.drop page.start)

theorem Node.isSome_rowOrder? (node : Node κ) : node.rowOrder?.isSome = node.hasOrder := by
  rw [rowOrder?, hasOrder]
  cases node.orderBy with
  | some columns => rfl
  | none =>
      cases node.junction with
      | none => rfl
      | some junction => simp

/-- A page by position that was read. -/
structure OffsetRead (α : Type) where
  page : OffsetPage
  /-- The rows of the page, with their positions. -/
  rows : List (α × Nat)

/-- The cursor of the last row of a page, if it has rows. -/
def OffsetRead.next (read : OffsetRead α) : Option String :=
  read.rows.getLast?.map fun row => OffsetCursor.encode (UInt64.ofNat row.2)

/-- Rows that are read in pages of one size. -/
structure Tiling (α : Type) where
  rows : List α
  size : UInt64

namespace Tiling

variable (tiling : Tiling α) (dialect : Dialect) (node : Node κ)

/-- The page that is read behind a cursor. -/
def readPage (cursor : Option String) : Except Error (OffsetRead α) := do
  let args : Args := { first := tiling.size, after := cursor }
  let page ← { node with args }.offsetPage { dialect }
  return { page, rows := page.take tiling.rows.zipIdx }

/-- The pages behind a cursor, `count` of them at most. The last one cannot be read or has no
cursor to go on with. -/
def pagesFrom : (count : Nat) → (cursor : Option String) → List (Except Error (OffsetRead α))
  | 0, _ => []
  | count + 1, cursor =>
    match tiling.readPage dialect node cursor with
    | .error error => [.error error]
    | .ok read =>
      .ok read ::
        match read.next with
        | some text => pagesFrom count (some text)
        | none => []

/-- The pages from the first on, `count` of them at most. -/
def pages (count : Nat) : List (Except Error (OffsetRead α)) :=
  tiling.pagesFrom dialect node count none

/-- The page that starts behind an offset, or at the first row. -/
def readAt (order : Order) (offset : Option UInt64) : OffsetRead α :=
  let page : OffsetPage := { limit := .rows tiling.size, offset, order }
  { page, rows := page.take tiling.rows.zipIdx }

variable {node} in
/-- Behind a cursor stands the page that starts behind its position. -/
theorem readPage_eq {order : Order} (ordered : node.rowOrder? = some order)
    {cursor : Option String} {offset : Option UInt64}
    (reads : cursor.mapM positionAfter = .ok offset) :
    tiling.readPage dialect node cursor = .ok (tiling.readAt order offset) := by
  have ordered' : ∀ args, ({ node with args } : Node κ).rowOrder? = some order :=
    fun _ => ordered
  simp only [readPage, Node.offsetPage, ordered', reads]
  rfl

theorem rows_readAt (order : Order) (offset : Option UInt64) :
    (tiling.readAt order offset).rows =
      (tiling.rows.zipIdx.drop (offset.elim 0 UInt64.toNat)).take tiling.size.toNat :=
  rfl

theorem length_readAt (order : Order) (offset : Option UInt64) :
    (tiling.readAt order offset).rows.length =
      min tiling.size.toNat (tiling.rows.length - offset.elim 0 UInt64.toNat) := by
  rw [rows_readAt, List.length_take, List.length_drop, List.length_zipIdx]

theorem readAt_end (order : Order) {offset : Option UInt64}
    (all : offset.elim 0 UInt64.toNat = tiling.rows.length) :
    (tiling.readAt order offset).rows = [] ∧ (tiling.readAt order offset).next = none := by
  have none : (tiling.readAt order offset).rows = [] := by
    apply List.eq_nil_of_length_eq_zero
    rw [length_readAt, all, Nat.sub_self, Nat.min_zero]
  refine ⟨none, ?_⟩
  rw [OffsetRead.next, none]
  rfl

theorem getLast?_readAt (order : Order) (offset : Option UInt64) {count : Nat}
    (long : (tiling.readAt order offset).rows.length = count + 1) :
    (tiling.readAt order offset).rows.getLast?.map Prod.snd =
      some (offset.elim 0 UInt64.toNat + count) := by
  have bound := tiling.length_readAt order offset
  rw [long] at bound
  have within : count < tiling.size.toNat := by omega
  have listed : offset.elim 0 UInt64.toNat + count < tiling.rows.length := by omega
  rw [List.getLast?_eq_getElem?, long, rows_readAt, Nat.add_sub_cancel,
    List.getElem?_take_of_lt within, List.getElem?_drop, List.getElem?_zipIdx,
    List.getElem?_eq_getElem listed]
  simp

/-- As long as rows are left, a page has some, and its cursor leads to where it ends. -/
theorem readAt_left (few : tiling.rows.length < UInt64.size) (sized : tiling.size ≠ 0)
    (order : Order) {offset : Option UInt64}
    (left : offset.elim 0 UInt64.toNat < tiling.rows.length) :
    (tiling.readAt order offset).rows ≠ [] ∧
      ∃ position : UInt64,
        (tiling.readAt order offset).next = some (OffsetCursor.encode position) ∧
        position.toNat + 1 =
          offset.elim 0 UInt64.toNat + (tiling.readAt order offset).rows.length := by
  have room : tiling.size.toNat ≠ 0 := fun zero => sized (UInt64.toNat_inj.mp zero)
  have length := tiling.length_readAt order offset
  obtain ⟨count, long⟩ : ∃ count, (tiling.readAt order offset).rows.length = count + 1 :=
    Nat.exists_eq_add_one.mpr (by omega)
  have last := tiling.getLast?_readAt order offset long
  have countable : offset.elim 0 UInt64.toNat + count < UInt64.size := by omega
  refine ⟨List.ne_nil_of_length_eq_add_one long,
    UInt64.ofNat (offset.elim 0 UInt64.toNat + count), ?_, ?_⟩
  · obtain ⟨row, ends, placed⟩ := Option.map_eq_some_iff.mp last
    rw [OffsetRead.next, ends, Option.map_some, placed]
  · rw [UInt64.toNat_ofNat_of_lt' countable, long, Nat.add_assoc]

/-! ## Page after page -/

/-- Pages that tile the rows from a position on. All of them but the last have rows. -/
structure Tiles (start : Nat) (full : List (OffsetRead α)) (last : OffsetRead α) : Prop where
  /-- The pages start at distances of their size. -/
  starts : full.map (·.page.start) = List.range' start full.length tiling.size.toNat
  /-- A page with rows has a cursor, and behind its position there is another one. -/
  nexts : ∀ read ∈ full, read.rows ≠ [] ∧ ∃ position,
    read.next = some (OffsetCursor.encode position) ∧
    (nextCount position).toNat = position.toNat + 1
  /-- The last page starts behind the last row. -/
  ends : last.page.start = tiling.rows.length ∧ last.rows = [] ∧ last.next = none
  holds : ∀ read ∈ full ++ [last],
    read.page.limit = .rows tiling.size ∧ read.rows = read.page.take tiling.rows.zipIdx
  /-- The pages put together are the rows. -/
  covers : full.flatMap (·.rows) = tiling.rows.zipIdx.drop start

namespace Tiles

variable {tiling} {order : Order} {offset : Option UInt64}
variable {full : List (OffsetRead α)} {last : OffsetRead α}

theorem nil (all : offset.elim 0 UInt64.toNat = tiling.rows.length) :
    tiling.Tiles (offset.elim 0 UInt64.toNat) [] (tiling.readAt order offset) where
  starts := rfl
  nexts := nofun
  ends := ⟨all, tiling.readAt_end order all⟩
  holds := by simp [readAt]
  covers := (List.drop_eq_nil_of_le (by simp [all])).symm

theorem full_eq_nil {start : Nat} (tiles : tiling.Tiles start full last)
    (all : tiling.rows.length ≤ start) : full = [] := by
  have none := tiles.covers
  rw [List.drop_eq_nil_of_le (by rwa [List.length_zipIdx]), List.flatMap_eq_nil_iff] at none
  exact List.eq_nil_iff_forall_not_mem.mpr fun read member =>
    (tiles.nexts read member).1 (none read member)

theorem cons (few : tiling.rows.length < UInt64.size) (sized : tiling.size ≠ 0)
    (left : offset.elim 0 UInt64.toNat < tiling.rows.length)
    (tiles : tiling.Tiles
      (offset.elim 0 UInt64.toNat + (tiling.readAt order offset).rows.length) full last) :
    tiling.Tiles (offset.elim 0 UInt64.toNat) (tiling.readAt order offset :: full) last where
  starts := by
    have length := tiling.length_readAt order offset
    rw [List.map_cons, List.length_cons, List.range'_succ, tiles.starts]
    by_cases whole : tiling.size.toNat ≤ tiling.rows.length - offset.elim 0 UInt64.toNat
    · rw [length, Nat.min_eq_left whole]
      rfl
    · rw [tiles.full_eq_nil (by omega)]
      rfl
  nexts := by
    intro read member
    rcases List.mem_cons.mp member with rfl | later
    · obtain ⟨some, position, next, behind⟩ := tiling.readAt_left few sized order left
      refine ⟨some, position, next, ?_⟩
      have within := tiling.length_readAt order offset
      rw [toNat_nextCount, if_pos (by omega)]
    · exact tiles.nexts read later
  ends := tiles.ends
  holds := by
    intro read member
    rcases List.mem_cons.mp member with rfl | later
    · exact ⟨rfl, rfl⟩
    · exact tiles.holds read later
  covers := by
    rw [List.flatMap_cons, tiles.covers, ← List.drop_drop]
    exact List.prefix_iff_eq_append.mp (List.take_prefix ..)

end Tiles

theorem pagesFrom_of_end {cursor : Option String} {read : OffsetRead α}
    (found : tiling.readPage dialect node cursor = .ok read) (ends : read.next = none)
    (count : Nat) : tiling.pagesFrom dialect node (count + 1) cursor = [.ok read] := by
  rw [pagesFrom, found]
  simp only [ends]

theorem pagesFrom_of_next {cursor : Option String} {read : OffsetRead α} {text : String}
    (found : tiling.readPage dialect node cursor = .ok read) (next : read.next = some text)
    (count : Nat) :
    tiling.pagesFrom dialect node (count + 1) cursor =
      .ok read :: tiling.pagesFrom dialect node count (some text) := by
  rw [pagesFrom, found]
  simp only [next]

variable {node} in
/-- From any offset on, page after page tiles the rows that are left. -/
theorem pagesFrom_tiles (few : tiling.rows.length < UInt64.size) (sized : tiling.size ≠ 0)
    {order : Order} (ordered : node.rowOrder? = some order) {cursor : Option String}
    {offset : Option UInt64} (reads : cursor.mapM positionAfter = .ok offset)
    (within : offset.elim 0 UInt64.toNat ≤ tiling.rows.length) :
    ∃ full last, tiling.Tiles (offset.elim 0 UInt64.toNat) full last ∧
      ∀ dialect count, full.length < count →
        tiling.pagesFrom dialect node count cursor = (full ++ [last]).map .ok := by
  -- Every page has a row at least, so fewer and fewer rows are left.
  induction measured : tiling.rows.length - offset.elim 0 UInt64.toNat using Nat.strongRecOn
    generalizing cursor offset with
  | _ length ih =>
      have found := fun dialect => tiling.readPage_eq dialect ordered reads
      rcases Nat.eq_or_lt_of_le within with all | left
      · refine ⟨[], tiling.readAt order offset, .nil all, ?_⟩
        intro dialect count enough
        cases count with
        | zero => exact absurd enough (Nat.lt_irrefl 0)
        | succ count =>
            exact tiling.pagesFrom_of_end dialect node (found dialect)
              (tiling.readAt_end order all).2 count
      · obtain ⟨filled, position, next, behind⟩ := tiling.readAt_left few sized order left
        have long := tiling.length_readAt order offset
        have rows := List.length_pos_iff.mpr filled
        obtain ⟨further, reads', start⟩ :=
          @OffsetCursor.positionAfter_encode position (by omega)
        rw [behind] at start
        have later : (some (OffsetCursor.encode position)).mapM positionAfter =
            .ok (some further) := by
          rw [Option.mapM_some, reads']
          rfl
        obtain ⟨full, last, tiles, run⟩ := ih (tiling.rows.length - further.toNat) (by omega)
          later (show further.toNat ≤ tiling.rows.length by omega) rfl
        rw [Option.elim_some, start] at tiles
        refine ⟨tiling.readAt order offset :: full, last, tiles.cons few sized left, ?_⟩
        intro dialect count enough
        cases count with
        | zero => exact absurd enough (Nat.not_lt_zero _)
        | succ count =>
            rw [tiling.pagesFrom_of_next dialect node (found dialect) next,
              run dialect count (Nat.lt_of_succ_lt_succ enough)]
            rfl

/-- Paging by position tiles the rows, and in the same way whatever the dialect: no page fails to
be read, no position is without a successor, the pages follow one another without a gap or an
overlap, and put together they are the rows. The clause that a dialect has for a page selects the
rows of that page; the clause of any limit and offset selects the rows behind the offset that the
limit lets through. -/
theorem pages_tile_rows {node : Node κ} (ordered : node.hasOrder = true)
    (few : tiling.rows.length < UInt64.size) (sized : tiling.size ≠ 0) :
    ∃ full last, tiling.Tiles 0 full last ∧
      ∀ dialect : Dialect,
        (∀ count, full.length < count →
          tiling.pages dialect node count = (full ++ [last]).map .ok) ∧
        (∀ read ∈ full ++ [last], ∃ window,
          Window.read? dialect (dialect.windowClause read.page.limit read.page.offset) =
            some window ∧
          window.select tiling.rows.zipIdx = read.rows) ∧
        ∀ limit offset, ∃ window,
          Window.read? dialect (dialect.windowClause limit offset) = some window ∧
          window.select tiling.rows =
            limit.take (tiling.rows.drop (offset.elim 0 UInt64.toNat)) := by
  obtain ⟨order, owned⟩ := Option.isSome_iff_exists.mp (node.isSome_rowOrder?.trans ordered)
  have first : (none : Option String).mapM positionAfter = .ok none := rfl
  obtain ⟨full, last, tiles, run⟩ :=
    tiling.pagesFrom_tiles few sized owned first (Nat.zero_le _)
  refine ⟨full, last, tiles, fun dialect => ⟨run dialect, ?_, ?_⟩⟩
  · intro read member
    rw [(tiles.holds read member).2]
    exact Window.exists_read? dialect _ _ (by rwa [List.length_zipIdx])
  · intro limit offset
    exact Window.exists_read? dialect limit offset few

/-- Five names in pages of two. -/
def names : Tiling String where
  rows := ["ada", "bob", "cyd", "dan", "eve"]
  size := 2

/-- The relation of the names. -/
def nameNode : Node Unit where
  table := "names"
  aliasName := "n"
  orderBy := some [⟨"name", .asc⟩]

/-- The names are read in three pages and one that is empty. -/
theorem pages_tile_names :
    nameNode.hasOrder = true ∧ names.rows.length < UInt64.size ∧ names.size ≠ 0 ∧
      ∃ full last, names.Tiles 0 full last ∧
        names.pages .mySql nameNode (full.length + 1) = (full ++ [last]).map .ok := by
  refine ⟨rfl, by decide, by decide, ?_⟩
  obtain ⟨full, last, tiles, read⟩ :=
    names.pages_tile_rows (rfl : nameNode.hasOrder = true) (by decide) (by decide)
  exact ⟨full, last, tiles, (read .mySql).1 _ (Nat.lt_succ_self _)⟩

end Tiling

end PagedJoins
