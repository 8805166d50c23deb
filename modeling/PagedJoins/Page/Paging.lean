import PagedJoins.Page.Offset

/-!
# Choice of paging

A relation with a sort key is paged by it, one with an order by position, and one with
neither is taken whole, whatever page its arguments ask for. It cannot have both, and
neither can be had from the relation and its junction at once.
-/

namespace PagedJoins

/-- How a relation is paged. -/
inductive Paging where
  | keyset (page : KeysetPage)
  | offset (page : OffsetPage)
  | unpaginated
  deriving DecidableEq, Repr

/-- The name of a way of paging. -/
def Paging.name : Paging → String
  | keyset _ => "keyset"
  | offset _ => "offset"
  | unpaginated => "unpaginated"

variable {κ : Type}

/-- Why the orders of a relation contradict each other. -/
def Node.orderFault? (node : Node κ) : Option ConfigFault :=
  if node.hasSortKey ∧ node.hasOrder then
    some .sortKeyAndOrder
  else if node.sortKey.isSome ∧ node.junction.any (·.sortKey.isSome) then
    some .twoSortKeys
  else if node.orderBy.isSome ∧ node.junction.any (·.orderBy.isSome) then
    some .twoOrders
  else
    none

/-- The paging that a relation asks for. -/
def Node.paging (config : Config) (node : Node κ) : Except Error Paging :=
  match node.orderFault? with
  | some fault => node.refuse fault
  | none =>
    if node.hasSortKey then
      .keyset <$> node.keysetPage config
    else if node.hasOrder then
      .offset <$> node.offsetPage config
    else
      .ok .unpaginated

end PagedJoins
