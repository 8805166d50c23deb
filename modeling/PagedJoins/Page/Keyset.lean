import PagedJoins.Page.Cursor
import PagedJoins.Page.Policy
import PagedJoins.Page.Seek
import PagedJoins.Relation.Node

/-!
# Pages by sort key

A page is the rows that follow a marked row in the order of a sort key. Paging backward
turns the order round, so that the rows next to the marked one come first. The sort key
is taken as it is: unless it tells all rows apart, pages are not well defined.
-/

namespace PagedJoins

/-- A page by sort key. -/
structure KeysetPage where
  limit : Limit
  /-- The order of the statement, already turned round for a page backward. -/
  order : Order
  /-- The row that the page follows, if it is not the first page. -/
  seek : Option Seek
  backward : Bool
  deriving DecidableEq, Repr

variable {κ : Type}

/-- The sort key of a relation or else of its junction, with the alias of its owner. -/
def Node.sortOrder? (node : Node κ) : Option Order :=
  match node.sortKey with
  | some columns => some ⟨node.aliasName, columns⟩
  | none => node.junction.bind fun junction =>
    junction.sortKey.map fun columns => ⟨junction.aliasName, columns⟩

/-- Why page arguments cannot be combined. -/
def Args.keysetFault? (args : Args) : Option ConfigFault :=
  match args.first, args.last, args.after, args.before with
  | some _, some _, _, _ => some .firstAndLast
  | some _, none, _, some _ => some .beforeWithFirst
  | none, some _, some _, _ => some .afterWithLast
  | none, none, some _, some _ => some .afterAndBefore
  | _, _, _, _ => none

/-- Do the arguments ask for a page backward? -/
def Args.isBackward (args : Args) : Bool :=
  args.last.isSome || (args.first.isNone && args.before.isSome)

/-- A configuration error of a relation. -/
def Node.refuse {α : Type} (node : Node κ) (fault : ConfigFault) : Except Error α :=
  .error (.config fault node.aliasName)

/-- The values that a cursor gives for a sort key. -/
def cursorValues (text : String) (sortKey : List SortColumn) : Except Error (List Value) :=
  ((Cursor.decode text).bind (·.alignedValues sortKey)).mapError .cursor

/-- The page by sort key that a relation asks for. -/
def Node.keysetPage (config : Config) (node : Node κ) : Except Error KeysetPage := do
  let some base := node.sortOrder? | node.refuse .noSortKey
  if base.columns = [] then
    node.refuse .emptySortKey
  if let some fault := node.args.keysetFault? then
    node.refuse fault
  let backward := node.args.isBackward
  let limit ← (config.pageLimit (node.args.first <|> node.args.last)).mapError
    (.config · node.aliasName)
  let order := if backward then base.reversed else base
  let cursor := if backward then node.args.before else node.args.after
  let seek ← cursor.mapM fun text => do
    let values ← cursorValues text base.columns
    return { table := base.table, columns := order.columns, values }
  return { limit, order, seek, backward }

end PagedJoins
