import PagedJoins.Outcome
import PagedJoins.Relation.Args

/-!
# Relations

A relation is a table with an alias, the arguments of its request, and what attaches it
to its parent: a join condition, a batch of parent keys, or a junction table that stands
between the two. Filters and join conditions are callbacks, which see the quoted aliases
they are to speak about, the relation, and a context that belongs to the caller.
-/

namespace PagedJoins

/-- What every callback is told of its relation. -/
structure Relation where
  /-- The table, written as it is. -/
  table : String
  aliasName : String
  args : Args := {}

/-- What a filter sees. -/
structure FilterScope (κ : Type) where
  /-- The quoted alias of the table to restrict. -/
  table : String
  relation : Relation
  context : κ

/-- What a join condition sees. -/
structure JoinScope (κ : Type) where
  /-- The quoted alias of the table on the left. -/
  parent : String
  /-- The quoted alias of the table on the right. -/
  child : String
  relation : Relation
  context : κ

/-- A callback that may restrict the rows of a table. -/
abbrev Filter (κ : Type) := FilterScope κ → Outcome (Option String)

/-- A callback that gives the condition between two tables. -/
abbrev JoinCondition (κ : Type) := JoinScope κ → Outcome String

/-- The batch keys of a relation with a junction, whose own key is a junction column. -/
structure JunctionBatch (κ : Type) where
  keys : BatchKeys
  /-- The condition between the junction and the relation. -/
  join : JoinCondition κ

/-- The table between the two sides of a many-to-many relation. -/
structure Junction (κ : Type) where
  table : String
  aliasName : String
  filter : Option (Filter κ) := none
  orderBy : Option (List SortColumn) := none
  sortKey : Option (List SortColumn) := none
  /-- The condition from the parent to the junction, and that from the junction to the
  relation; more are allowed and have no use. -/
  joins : List (JoinCondition κ) := []
  batch : Option (JunctionBatch κ) := none

/-- A relation with its callbacks and links. -/
structure Node (κ : Type) extends Relation where
  filter : Option (Filter κ) := none
  join : Option (JoinCondition κ) := none
  orderBy : Option (List SortColumn) := none
  sortKey : Option (List SortColumn) := none
  junction : Option (Junction κ) := none
  batch : Option BatchKeys := none

/-- How many rows of either side belong together. -/
inductive Cardinality where
  | oneToMany
  | manyToMany
  deriving DecidableEq, Repr

namespace Node

variable {κ : Type}

/-- A relation with a junction is many-to-many. -/
def cardinality (node : Node κ) : Cardinality :=
  if node.junction.isSome then .manyToMany else .oneToMany

/-- Is the relation resolved for a batch of parent rows, in a statement of its own? -/
def isBatched (node : Node κ) : Bool :=
  node.batch.isSome || node.junction.any (·.batch.isSome)

/-- Does the relation or its junction have a sort key? -/
def hasSortKey (node : Node κ) : Bool :=
  node.sortKey.isSome || node.junction.any (·.sortKey.isSome)

/-- Does the relation or its junction have an order? -/
def hasOrder (node : Node κ) : Bool :=
  node.orderBy.isSome || node.junction.any (·.orderBy.isSome)

end Node

end PagedJoins
