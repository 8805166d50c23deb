import PagedJoins.Page.Keyset
import PagedJoins.Page.OffsetCursor

/-!
# Pages by position

A page is a run of rows in a given order, from the position behind a cursor on. There is
no paging backward.
-/

namespace PagedJoins

/-- A page by position. -/
structure OffsetPage where
  limit : Limit
  offset : Option UInt64
  order : Order
  deriving DecidableEq, Repr

variable {κ : Type}

/-- The order of a relation or else of its junction, with the alias of its owner. -/
def Node.rowOrder? (node : Node κ) : Option Order :=
  match node.orderBy with
  | some columns => some ⟨node.aliasName, columns⟩
  | none => node.junction.bind fun junction =>
    junction.orderBy.map fun columns => ⟨junction.aliasName, columns⟩

/-- The position behind that of a cursor. -/
def positionAfter (cursor : String) : Except Error UInt64 :=
  ((OffsetCursor.decode cursor).map nextCount).mapError .cursor

/-- The page by position that a relation asks for. -/
def Node.offsetPage (config : Config) (node : Node κ) : Except Error OffsetPage := do
  let some order := node.rowOrder? | node.refuse .noOrder
  if node.args.last.isSome ∨ node.args.before.isSome then
    node.refuse .backwardOffset
  let limit ← (config.pageLimit node.args.first).mapError (.config · node.aliasName)
  let offset ← node.args.after.mapM positionAfter
  return { limit, offset, order }

end PagedJoins
