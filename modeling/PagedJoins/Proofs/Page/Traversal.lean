import Mathlib.Data.List.Chain
import PagedJoins.Page.Traversal
import PagedJoins.Proofs.Page.Cursor
import PagedJoins.Proofs.Page.RowOrder

/-!
# Going through all pages

Reading page after page, each behind the cursor of the last row before it, a client meets
every row once, in order. A page cuts the rows in two: those up to the marked row, which
were met before, and those behind it, of which the page holds the first ones. Since the
cursor of a row leads back to the values of the row, each page starts where the one before
it ended.
-/

namespace PagedJoins

variable {κ : Type}

namespace Traversal

/-- The sort key in the direction of the traversal. -/
def sweep (traversal : Traversal) (key : List SortColumn) : List SortColumn :=
  if traversal.backward then key.map SortColumn.reverse else key

/-- The page behind a row with these values, or the first page. -/
def pageBehind (traversal : Traversal) (table : String) (key : List SortColumn)
    (mark : Option (List Value)) : KeysetPage where
  limit := .rows traversal.size
  order := ⟨table, traversal.sweep key⟩
  seek := mark.map fun values => ⟨table, traversal.sweep key, values⟩
  backward := traversal.backward

/-- Does a cursor, or its absence, stand for these values, or for none? -/
def ReadsAs (key : List SortColumn) (cursor : Option String) (mark : Option (List Value)) :
    Prop :=
  cursor.mapM (cursorValues · key) = .ok mark

variable (traversal : Traversal) (cursor : Option String)

theorem keysetFault?_args : (traversal.args cursor).keysetFault? = none := by
  rw [args]
  cases traversal.backward with
  | true => rfl
  | false => rfl

theorem isBackward_args : (traversal.args cursor).isBackward = traversal.backward := by
  rw [args]
  cases traversal.backward with
  | true => rfl
  | false => rfl

theorem pageLimit_args :
    Config.pageLimit {} ((traversal.args cursor).first <|> (traversal.args cursor).last) =
      .ok (.rows traversal.size) := by
  rw [args]
  cases traversal.backward with
  | true => rfl
  | false => rfl

theorem cursor_args :
    (if traversal.backward then (traversal.args cursor).before
      else (traversal.args cursor).after) = cursor := by
  rw [args]
  cases traversal.backward with
  | true => rfl
  | false => rfl

theorem seek_of_readsAs {key : List SortColumn} {mark : Option (List Value)}
    (reads : ReadsAs key cursor mark) (place : List Value → Seek) :
    (cursor.mapM fun text => do
      let values ← cursorValues text key
      return place values) = .ok (mark.map place) := by
  cases cursor with
  | none =>
      cases reads
      rfl
  | some text =>
      cases read : cursorValues text key with
      | error fault =>
          rw [ReadsAs, Option.mapM_some, read] at reads
          cases reads
      | ok values =>
          rw [ReadsAs, Option.mapM_some, read] at reads
          cases reads
          rw [Option.mapM_some, read]
          rfl

variable {cursor}

/-- A relation with a sort key, given the arguments of a traversal, asks for the page behind
the cursor. -/
theorem keysetPage_args {node : Node κ} {key : List SortColumn} (keyed : node.sortKey = some key)
    (nonempty : key ≠ []) {mark : Option (List Value)} (reads : ReadsAs key cursor mark) :
    { node with args := traversal.args cursor }.keysetPage {} =
      .ok (traversal.pageBehind node.aliasName key mark) := by
  have ordered : ({ node with args := traversal.args cursor }).sortOrder? =
      some ⟨node.aliasName, key⟩ := by
    rw [Node.sortOrder?, keyed]
  have turned : (if traversal.backward then Order.reversed ⟨node.aliasName, key⟩
      else ⟨node.aliasName, key⟩) = (⟨node.aliasName, traversal.sweep key⟩ : Order) := by
    rw [sweep]
    cases traversal.backward with
    | true => rfl
    | false => rfl
  have seeks := seek_of_readsAs cursor reads
    (fun values => ⟨node.aliasName, traversal.sweep key, values⟩)
  rw [Node.keysetPage]
  simp only [ordered, nonempty, keysetFault?_args, isBackward_args, pageLimit_args, cursor_args,
    turned, seeks]
  rfl

/-! ## The rows of a page -/

variable {kinds : List ValueKind} {key : List SortColumn}

omit cursor in
theorem fits_of_mem_scan (fits : ∀ row ∈ traversal.rows, FitsExactly kinds row) :
    ∀ row ∈ traversal.scan, FitsExactly kinds row.1 := by
  intro row member
  have placed : row ∈ traversal.rows.zipIdx := by
    rw [scan] at member
    cases turned : traversal.backward with
    | true =>
        rw [turned] at member
        exact List.mem_reverse.mp member
    | false =>
        rw [turned] at member
        exact member
  exact fits row.1 (List.fst_mem_of_mem_zipIdx placed)

/-- A traversal meets the rows in the order of its direction. -/
theorem scan_pairwise (fits : ∀ row ∈ traversal.rows, FitsExactly kinds row)
    (sorted : traversal.rows.IsChain (Precedes key)) :
    traversal.scan.Pairwise fun row row' => Precedes (traversal.sweep key) row.1 row'.1 := by
  have placed : traversal.rows.zipIdx.Pairwise fun row row' => Precedes key row.1 row'.1 := by
    rw [← List.pairwise_map, List.zipIdx_map_fst]
    exact Precedes.pairwise_of_isChain fits sorted
  rw [scan, sweep]
  cases traversal.backward with
  | false => exact placed
  | true =>
      refine (List.pairwise_reverse.mpr placed).imp_of_mem ?_
      intro row row' member member' before
      have fit := fits row.1 (List.fst_mem_of_mem_zipIdx (List.mem_reverse.mp member))
      have fit' := fits row'.1 (List.fst_mem_of_mem_zipIdx (List.mem_reverse.mp member'))
      exact (Precedes.reverse_iff fit fit').mpr before

theorem admits_pageBehind {table : String} {mark row : List Value}
    (fits : FitsExactly kinds mark) (fits' : FitsExactly kinds row) :
    (traversal.pageBehind table key (some mark)).admits row = true ↔
      Precedes (traversal.sweep key) mark row :=
  Precedes.admitsFrom_iff fits fits'

/-- Of rows in order, the page behind those that were met admits just the others. -/
theorem filter_pageBehind {table : String} {met rest : List PlacedRow}
    (fits : ∀ row ∈ met ++ rest, FitsExactly kinds row.1)
    (sorted : (met ++ rest).Pairwise
      fun row row' => Precedes (traversal.sweep key) row.1 row'.1) :
    (met ++ rest).filter (fun row =>
      (traversal.pageBehind table key (met.getLast?.map Prod.fst)).admits row.1) = rest := by
  rcases List.eq_nil_or_concat' met with rfl | ⟨earlier, mark, rfl⟩
  · exact List.filter_eq_self.mpr fun row member => rfl
  · have marked : (earlier ++ [mark]).getLast?.map Prod.fst = some mark.1 := by simp
    have fitsMark := fits mark (by simp)
    obtain ⟨sortedMet, -, apart⟩ := List.pairwise_append.mp sorted
    rw [marked, List.filter_append]
    have none : (earlier ++ [mark]).filter (fun row =>
        (traversal.pageBehind table key (some mark.1)).admits row.1) = [] := by
      rw [List.filter_eq_nil_iff]
      intro row member
      have fitsRow := fits row (List.mem_append_left rest member)
      rw [admits_pageBehind traversal fitsMark fitsRow]
      rcases List.mem_append.mp member with before | last
      · have earlierFirst := (List.pairwise_append.mp sortedMet).2.2 row before mark (by simp)
        exact Precedes.asymm fitsRow fitsMark earlierFirst
      · rw [List.mem_singleton.mp last]
        exact Precedes.irrefl fitsMark
    have all : rest.filter (fun row =>
        (traversal.pageBehind table key (some mark.1)).admits row.1) = rest := by
      rw [List.filter_eq_self]
      intro row member
      have fitsRow := fits row (List.mem_append_right _ member)
      rw [admits_pageBehind traversal fitsMark fitsRow]
      exact apart mark (by simp) row member
    rw [none, all, List.nil_append]

/-! ## Page after page -/

/-- What makes a traversal well defined: the sort key has columns, all different, every row has
one value for each of them, of a kind that compares exactly, and the rows are in order. -/
structure Ordered (kinds : List ValueKind) (key : List SortColumn) : Prop where
  nonempty : key ≠ []
  distinct : (key.map (·.column)).Nodup
  complete : kinds.length = key.length
  sized : traversal.size ≠ 0
  fits : ∀ row ∈ traversal.rows, FitsExactly kinds row
  sorted : traversal.rows.IsChain (Precedes key)

variable {traversal} in
theorem Ordered.size_pos (ordered : traversal.Ordered kinds key) : 0 < traversal.size.toNat :=
  Nat.pos_of_ne_zero fun zero => ordered.sized (UInt64.toNat_inj.mp zero)

theorem readsAs_ofRow {row : List Value} (distinct : (key.map (·.column)).Nodup)
    (complete : kinds.length = key.length) (fits : FitsExactly kinds row) :
    ∃ text, (Cursor.ofRow key row).encode = .ok text ∧
      ReadsAs key (some text) (some row) := by
  have long : row.length = key.length := by
    rw [← List.Forall₂.length_eq fits, complete]
  obtain ⟨text, written, read⟩ :=
    Cursor.encode_ofRow distinct long.ge (FitsExactly.kind_ne_float fits)
  refine ⟨text, written, ?_⟩
  have aligned := Cursor.alignedValues_ofRow distinct long.ge
  rw [← long, List.take_length] at aligned
  have values : cursorValues text key = .ok row := by
    rw [cursorValues, read]
    simp only [Except.bind, aligned]
    rfl
  rw [ReadsAs, Option.mapM_some, values]
  rfl

/-- The read of a page that holds the first of the rows that are left. -/
def readOf (table : String) (key : List SortColumn) (met rest : List PlacedRow) : PageRead where
  page := traversal.pageBehind table key (met.getLast?.map Prod.fst)
  rows := rest.take traversal.size.toNat
  next := (rest.take traversal.size.toNat).getLast?.map fun row =>
    (Cursor.ofRow key row.1).encode

/-- Behind the last row that was met, a page holds the first of the rows that are left. -/
theorem readPage_behind {node : Node κ} (keyed : node.sortKey = some key)
    (ordered : traversal.Ordered kinds key) {met rest : List PlacedRow}
    (parts : traversal.scan = met ++ rest)
    (reads : ReadsAs key cursor (met.getLast?.map Prod.fst)) :
    traversal.readPage {} node cursor = .ok (traversal.readOf node.aliasName key met rest) := by
  have fits := traversal.fits_of_mem_scan ordered.fits
  have sorted := traversal.scan_pairwise ordered.fits ordered.sorted
  rw [parts] at fits sorted
  have left : (traversal.scan.filter fun row =>
      (traversal.pageBehind node.aliasName key (met.getLast?.map Prod.fst)).admits row.1) =
        rest := by
    rw [parts]
    exact traversal.filter_pageBehind fits sorted
  rw [readPage, keysetPage_args traversal keyed ordered.nonempty reads]
  simp only [bind, Except.bind, left, keyed, Option.getD_some]
  rfl

theorem readOf_nil (table : String) (key : List SortColumn) (met : List PlacedRow) :
    (traversal.readOf table key met []).rows = [] ∧
      (traversal.readOf table key met []).next = none := by
  simp [readOf]

/-- As long as rows are left, the page that is read has some, and its cursor stands for the last
row that was met by then. -/
theorem readOf_of_ne_nil (ordered : traversal.Ordered kinds key) (table : String)
    {met rest : List PlacedRow} (parts : traversal.scan = met ++ rest) (left : rest ≠ []) :
    (traversal.readOf table key met rest).rows ≠ [] ∧
      ∃ text, (traversal.readOf table key met rest).next = some (.ok text) ∧
        ReadsAs key (some text)
          ((met ++ rest.take traversal.size.toNat).getLast?.map Prod.fst) := by
  have taken : rest.take traversal.size.toNat ≠ [] := by
    intro empty
    rcases List.take_eq_nil_iff.mp empty with none | none
    · exact ordered.size_pos.ne' none
    · exact left none
  obtain ⟨earlier, row, split⟩ :=
    (List.eq_nil_or_concat' (rest.take traversal.size.toNat)).resolve_left taken
  have member : row ∈ traversal.scan := by
    rw [parts]
    refine List.mem_append_right met (List.mem_of_mem_take (i := traversal.size.toNat) ?_)
    simp [split]
  obtain ⟨text, written, reads⟩ := readsAs_ofRow ordered.distinct ordered.complete
    (traversal.fits_of_mem_scan ordered.fits row member)
  refine ⟨taken, text, ?_, ?_⟩
  · rw [readOf, split, List.getLast?_concat, Option.map_some, written]
  · rw [split, ← List.append_assoc, List.getLast?_concat]
    exact reads

theorem pagesFrom_of_end {config : Config} {node : Node κ} {read : PageRead}
    (found : traversal.readPage config node cursor = .ok read) (ends : read.next = none)
    (count : Nat) : traversal.pagesFrom config node (count + 1) cursor = [.ok read] := by
  rw [pagesFrom, found]
  simp only [ends]

theorem pagesFrom_of_next {config : Config} {node : Node κ} {read : PageRead} {text : String}
    (found : traversal.readPage config node cursor = .ok read)
    (next : read.next = some (.ok text)) (count : Nat) :
    traversal.pagesFrom config node (count + 1) cursor =
      .ok read :: traversal.pagesFrom config node count (some text) := by
  rw [pagesFrom, found]
  simp only [next]

/-- From behind the last row that was met, page after page goes through the rows that are left,
and ends with a page that has no row. -/
theorem pagesFrom_behind {node : Node κ} (keyed : node.sortKey = some key)
    (ordered : traversal.Ordered kinds key) {met rest : List PlacedRow}
    (parts : traversal.scan = met ++ rest)
    (reads : ReadsAs key cursor (met.getLast?.map Prod.fst)) :
    ∃ (full : List PageRead) (last : PageRead),
      (∀ count, full.length < count →
        traversal.pagesFrom {} node count cursor = (full ++ [last]).map .ok) ∧
      (∀ read ∈ full, read.rows ≠ [] ∧ read.rows.length ≤ traversal.size.toNat ∧
        ∃ text, read.next = some (.ok text)) ∧
      (last.rows = [] ∧ last.next = none) ∧
      full.flatMap (·.rows) = rest := by
  -- Every page takes a row at least, so fewer and fewer rows are left.
  induction measured : rest.length using Nat.strong_induction_on
    generalizing met rest cursor with
  | _ length ih =>
      have read := traversal.readPage_behind keyed ordered parts reads
      by_cases left : rest = []
      · subst left
        have ends := traversal.readOf_nil node.aliasName key met
        refine ⟨[], traversal.readOf node.aliasName key met [], ?_, nofun, ends, rfl⟩
        intro count enough
        cases count with
        | zero => exact absurd enough (Nat.lt_irrefl 0)
        | succ count => exact traversal.pagesFrom_of_end read ends.2 count
      · obtain ⟨some, text, next, reads'⟩ :=
          traversal.readOf_of_ne_nil ordered node.aliasName parts left
        have parts' : traversal.scan = (met ++ rest.take traversal.size.toNat) ++
            rest.drop traversal.size.toNat := by
          rw [List.append_assoc, List.take_append_drop, parts]
        have fewer : (rest.drop traversal.size.toNat).length < length := by
          have rows : 0 < rest.length := List.length_pos_iff.mpr left
          have size : 0 < traversal.size.toNat := ordered.size_pos
          rw [List.length_drop, ← measured]
          exact Nat.sub_lt rows size
        obtain ⟨full, last, run, filled, ends, met'⟩ := ih _ fewer parts' reads' rfl
        refine ⟨traversal.readOf node.aliasName key met rest :: full, last, ?_, ?_, ends, ?_⟩
        · intro count enough
          cases count with
          | zero => exact absurd enough (Nat.not_lt_zero _)
          | succ count =>
              rw [traversal.pagesFrom_of_next read next, run count (Nat.lt_of_succ_lt_succ enough)]
              rfl
        · intro page member
          rcases List.mem_cons.mp member with rfl | later
          · exact ⟨some, List.length_take_le .., text, next⟩
          · exact filled page later
        · rw [List.flatMap_cons, met']
          exact List.take_append_drop ..

/-- Keyset paging visits every row once, in order: forward, the pages put together are the rows,
and backward they are the rows from the last to the first. No page fails to be read and no
cursor to be written, all pages but one have rows, and the traversal ends with that one. -/
theorem pages_visit_every_row_once {node : Node κ} {kinds : List ValueKind}
    {key : List SortColumn} (keyed : node.sortKey = some key)
    (ordered : traversal.Ordered kinds key) :
    ∃ (full : List PageRead) (last : PageRead),
      (∀ count, full.length < count →
        traversal.pages {} node count = (full ++ [last]).map .ok) ∧
      (∀ read ∈ full, read.rows ≠ [] ∧ read.rows.length ≤ traversal.size.toNat ∧
        ∃ text, read.next = some (.ok text)) ∧
      (last.rows = [] ∧ last.next = none) ∧
      full.flatMap (·.rows) =
        if traversal.backward then traversal.rows.zipIdx.reverse else traversal.rows.zipIdx :=
  traversal.pagesFrom_behind keyed ordered (List.nil_append _).symm rfl

/-- Three scores with the names of those who have them, from the best score down and then by
name, in pages of two. The integers are of different widths. -/
def scores (backward : Bool) : Traversal where
  rows :=
    [[.integer .big ⟨9, by decide⟩, .text "ada"], [.integer .small ⟨9, by decide⟩, .text "zoë"],
      [.integer .tiny ⟨-3, by decide⟩, .text "ada"]]
  size := 2
  backward

/-- The sort key of the scores. -/
def scoreKey : List SortColumn :=
  [⟨"score", .desc⟩, ⟨"name", .asc⟩]

/-- The relation of the scores. -/
def scoreNode : Node Unit where
  table := "scores"
  aliasName := "s"
  sortKey := some scoreKey

/-- The scores are gone through in both directions. -/
theorem pages_visit_every_score_once :
    scoreNode.sortKey = some scoreKey ∧
      (∀ backward, (scores backward).Ordered [.integer, .text] scoreKey) ∧
      (∃ full last, (scores false).pages {} scoreNode (full.length + 1) =
          (full ++ [last]).map .ok ∧ full.flatMap (·.rows) = (scores false).rows.zipIdx) ∧
      ∃ full last, (scores true).pages {} scoreNode (full.length + 1) =
          (full ++ [last]).map .ok ∧ full.flatMap (·.rows) = (scores true).rows.zipIdx.reverse := by
  have ordered : ∀ backward, (scores backward).Ordered [.integer, .text] scoreKey := by
    intro backward
    cases backward <;> constructor <;> decide
  refine ⟨rfl, ordered, ?_, ?_⟩
  · obtain ⟨full, last, run, -, -, met⟩ :=
      (scores false).pages_visit_every_row_once (rfl : scoreNode.sortKey = _) (ordered false)
    exact ⟨full, last, run _ (Nat.lt_succ_self _), met⟩
  · obtain ⟨full, last, run, -, -, met⟩ :=
      (scores true).pages_visit_every_row_once (rfl : scoreNode.sortKey = _) (ordered true)
    exact ⟨full, last, run _ (Nat.lt_succ_self _), met⟩

end Traversal

end PagedJoins
