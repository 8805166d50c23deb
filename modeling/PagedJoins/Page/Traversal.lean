import PagedJoins.Page.Keyset

/-!
# Going through the pages of a relation

A client that has read a page asks for the next with the cursor of its last row. Here the
rows are a list in memory, so that what the pages hold can be told without a database.
-/

namespace PagedJoins

variable {κ : Type}

/-- The rows that a limit lets through. -/
def Limit.take {α : Type} (limit : Limit) (rows : List α) : List α :=
  match limit with
  | .all => rows
  | .rows n => rows.take n.toNat

/-- Does a page hold a row, as far as its seek is concerned? -/
def KeysetPage.admits (page : KeysetPage) (row : List Value) : Bool :=
  page.seek.all (·.admits row)

/-- A row, given by its sort-key values, with its position in the list. -/
abbrev PlacedRow := List Value × Nat

/-- A page that was read. -/
structure PageRead where
  page : KeysetPage
  rows : List PlacedRow
  /-- The cursor of the last row, or why there is none; nothing if there is no row. -/
  next : Option (Except CursorFault String)

/-- Where a traversal starts, which way it goes, and how large its pages are. -/
structure Traversal where
  rows : List (List Value)
  size : UInt64
  backward : Bool

namespace Traversal

/-- The arguments for the page behind a cursor. -/
def args (traversal : Traversal) (cursor : Option String) : Args :=
  if traversal.backward then { last := traversal.size, before := cursor }
  else { first := traversal.size, after := cursor }

/-- The rows in the order in which they are met. -/
def scan (traversal : Traversal) : List PlacedRow :=
  if traversal.backward then traversal.rows.zipIdx.reverse else traversal.rows.zipIdx

/-- The page that is read behind a cursor. -/
def readPage (traversal : Traversal) (config : Config) (node : Node κ)
    (cursor : Option String) : Except Error PageRead := do
  let page ← { node with args := traversal.args cursor }.keysetPage config
  let rows := page.limit.take (traversal.scan.filter fun row => page.admits row.1)
  let next := rows.getLast?.map fun row =>
    (Cursor.ofRow (node.sortKey.getD []) row.1).encode
  return { page, rows, next }

/-- The pages behind a cursor, `count` of them at most. The traversal ends with a page that
cannot be read or has no cursor to go on with. -/
def pagesFrom (traversal : Traversal) (config : Config) (node : Node κ) :
    (count : Nat) → (cursor : Option String) → List (Except Error PageRead)
  | 0, _ => []
  | count + 1, cursor =>
    match traversal.readPage config node cursor with
    | .error error => [.error error]
    | .ok read =>
      .ok read ::
        match read.next with
        | some (.ok text) => traversal.pagesFrom config node count (some text)
        | _ => []

/-- The pages from the first on, `count` of them at most. -/
def pages (traversal : Traversal) (config : Config) (node : Node κ) (count : Nat) :
    List (Except Error PageRead) :=
  traversal.pagesFrom config node count none

end Traversal

end PagedJoins
