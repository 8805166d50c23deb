import PagedJoins.Relation.Node

/-!
# Links

What attaches a relation to the statement it is compiled into. A link holds all that its
strategy needs, so once a relation has a link nothing can be found missing later.
-/

namespace PagedJoins

variable {κ : Type}

/-- The ways to attach a relation. -/
inductive Strategy where
  | root
  | joinedOneToMany
  | joinedManyToMany
  | batchedOneToMany
  | batchedManyToMany
  deriving DecidableEq, Repr

/-- The name of a strategy. -/
def Strategy.name : Strategy → String
  | root => "root"
  | joinedOneToMany => "joined one-to-many"
  | joinedManyToMany => "joined many-to-many"
  | batchedOneToMany => "batched one-to-many"
  | batchedManyToMany => "batched many-to-many"

/-- What attaches a relation. -/
inductive Link (κ : Type) where
  /-- The relation stands first. -/
  | root
  /-- The relation is joined to its parent. -/
  | joined (parent : String) (on : JoinCondition κ)
  /-- The relation is joined to its parent through a junction. -/
  | joinedThrough (parent : String) (junction : Junction κ)
      (toJunction toNode : JoinCondition κ)
  /-- The relation is joined to a table of parent keys. -/
  | batched (keys : BatchKeys)
  /-- The relation is joined to a table of parent keys through a junction. -/
  | batchedThrough (junction : Junction κ) (batch : JunctionBatch κ)

/-- The strategy of a link. -/
def Link.strategy : Link κ → Strategy
  | root => .root
  | joined .. => .joinedOneToMany
  | joinedThrough .. => .joinedManyToMany
  | batched _ => .batchedOneToMany
  | batchedThrough .. => .batchedManyToMany

/-- The link of a relation without a junction. -/
def directLink (join : Option (JoinCondition κ)) (batch : Option BatchKeys)
    (parent : Option String) : Except ConfigFault (Link κ) :=
  match join, batch, parent with
  | some _, some _, _ => .error .joinAndBatch
  | none, some keys, _ => .ok (.batched keys)
  | some on, none, some parent => .ok (.joined parent on)
  | some _, none, none => .error .joinWithoutParent
  | none, none, some _ => .error .childWithoutLink
  | none, none, none => .ok .root

/-- The link through a junction. -/
def Junction.link (junction : Junction κ) (parent : Option String) :
    Except ConfigFault (Link κ) :=
  match junction.batch, junction.joins, parent with
  | some _, _ :: _, _ => .error .junctionJoinsAndBatch
  | some batch, [], _ => .ok (.batchedThrough junction batch)
  | none, [], _ => .error .junctionWithoutLink
  | none, [_], _ => .error .junctionWithOneJoin
  | none, _ :: _ :: _, none => .error .joinWithoutParent
  | none, toJunction :: toNode :: _, some parent =>
    .ok (.joinedThrough parent junction toJunction toNode)

/-- The link of a relation under a parent with an alias, or under none. -/
def Node.link (node : Node κ) (parent : Option String) : Except ConfigFault (Link κ) :=
  match node.junction with
  | some junction =>
    if node.join.isSome ∨ node.batch.isSome then .error .linkBesideJunction
    else junction.link parent
  | none => directLink node.join node.batch parent

end PagedJoins
