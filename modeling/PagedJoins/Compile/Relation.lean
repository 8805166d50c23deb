import PagedJoins.Compile.Fragment
import PagedJoins.Sql.Cast

/-!
# Compiling a relation

The link of a relation, its paging and its batch are settled before any callback is
called, so a relation that does not fit together calls none. Then the callbacks of the
link are called in a fixed order, and their answers are put in their places.

The condition that ties a page to its parent stands in the page's own `WHERE` and in the
condition of the join; the filters of a page stand only in its `WHERE`. Without paging,
each table is joined on its own conditions.
-/

namespace PagedJoins

variable {κ : Type}

/-- The page of a table, if the paging has one. -/
def Paging.select? (paging : Paging) (table aliasName : String) (conditions : Conditions)
    (inner : Option InnerJoin) : Option PagedSelect :=
  match paging with
  | .keyset page =>
    some {
      table, aliasName, inner, conditions
      seek := page.seek
      order := page.order
      limit := page.limit }
  | .offset page =>
    some {
      table, aliasName, inner, conditions
      order := page.order
      limit := page.limit
      offset := page.offset }
  | .unpaginated => none

/-- A relation as the callbacks see it: with the dialect that aliases are quoted in, and the
caller's context. -/
structure Site (κ : Type) where
  dialect : Dialect
  node : Node κ
  context : κ

namespace Site

/-- Call a filter about the table with an alias. -/
def callFilter (site : Site κ) (place : CallSite) (filter : Option (Filter κ))
    (aliasName : String) : Run (Option String) :=
  match filter with
  | none => pure none
  | some filter =>
    let table := site.dialect.quote aliasName
    .call ⟨place, site.node.aliasName, [table]⟩
      (filter { table, relation := site.node.toRelation, context := site.context })

/-- Call a join condition about the tables with two aliases. -/
def callJoin (site : Site κ) (place : CallSite) (condition : JoinCondition κ)
    (parentAlias childAlias : String) : Run String :=
  let parent := site.dialect.quote parentAlias
  let child := site.dialect.quote childAlias
  .call ⟨place, site.node.aliasName, [parent, child]⟩
    (condition { parent, child, relation := site.node.toRelation, context := site.context })

/-- Call the filter of the relation. -/
def nodeFilter (site : Site κ) : Run (Option String) :=
  site.callFilter .filter site.node.filter site.node.aliasName

/-- Call the filter of a junction. -/
def junctionFilter (site : Site κ) (junction : Junction κ) : Run (Option String) :=
  site.callFilter .junctionFilter junction.filter junction.aliasName

/-- The column of a batch key, cast to the type of the batch. -/
def keyColumn (site : Site κ) (aliasName : String) (keys : BatchKeys) (sample : Value) : String :=
  site.dialect.castLike (site.dialect.qualify aliasName keys.thisKey.name) sample

end Site

/-- The condition that ties a table to its parent, and the one that stands in for it where
the parent is out of sight. -/
structure Tie where
  key : String
  scope : Option String := none
  deriving DecidableEq, Repr

/-- The conditions of a tie and some predicates. -/
def Tie.conditions (tie : Tie) (predicates : List (Option String)) : Conditions :=
  let tied := Conditions.setJoinKey {} tie.key
  predicates.foldl Conditions.push (tie.scope.elim tied tied.setScope)

/-- The tie of a table to the batch of parent keys: an equality, or where the batch is out of
sight a list of the keys. The first key is the sample that the column is cast by. -/
def Site.batchTie (site : Site κ) (aliasName : String) (keys : BatchKeys) (sample : Value)
    (scope : List Value) : Tie where
  key := site.keyColumn aliasName keys sample ++ " = " ++
    site.dialect.batchColumn keys.parentKey.name
  scope := some (site.dialect.inList (site.keyColumn aliasName keys sample) scope)

/-- The fragment of a relation that stands first. -/
def rootFragment (relation : Relation) (paging : Paging) (filter : Option String) :
    Fragment :=
  let conditions := Conditions.push {} filter
  match paging.select? relation.table relation.aliasName conditions none with
  | some select => .firstPage select
  | none => .firstTable relation.table relation.aliasName conditions.render

/-- The fragment of a relation that is tied to its parent or batch. -/
def directFragment (relation : Relation) (paging : Paging) (kind : JoinKind) (tie : Tie)
    (filter : Option String) : Fragment :=
  let conditions := tie.conditions [filter]
  match paging.select? relation.table relation.aliasName conditions none with
  | some select => .page kind select tie.key
  | none => .table ⟨kind, relation.table, relation.aliasName, conditions.render⟩

/-- What the callbacks of a relation with a junction have answered. -/
structure JunctionAnswers where
  junctionFilter : Option String
  nodeFilter : Option String
  onNode : String

/-- A relation has a say in the rows of its junction's page if it has a filter, an order or a
sort key. Then it is joined inside that page as well. -/
def Node.innerJoin? (node : Node κ) (on : String) : Option InnerJoin :=
  if node.filter.isSome ∨ node.orderBy.isSome ∨ node.sortKey.isSome then
    some ⟨node.table, node.aliasName, on⟩
  else
    none

/-- The fragments of a relation and its junction, which is tied to a parent or batch. -/
def junctionFragments (node : Node κ) (junction : Junction κ) (paging : Paging) (tie : Tie)
    (answers : JunctionAnswers) : List Fragment :=
  let conditions := tie.conditions [answers.junctionFilter, answers.nodeFilter]
  let inner := node.innerJoin? answers.onNode
  let nodeJoin (on : String) : Fragment := .table ⟨.left, node.table, node.aliasName, on⟩
  match paging.select? junction.table junction.aliasName conditions inner with
  | some select => [.page .left select tie.key, nodeJoin answers.onNode]
  | none =>
    let onJunction := tie.conditions [answers.junctionFilter]
    let onNode := Tie.conditions ⟨answers.onNode, none⟩ [answers.nodeFilter]
    [.table ⟨.left, junction.table, junction.aliasName, onJunction.render⟩,
      nodeJoin onNode.render]

/-- Call the callbacks of a link and put their answers in their places. -/
def Site.fragments (site : Site κ) (paging : Paging) (scope : List Value) :
    Link κ → Run (List Fragment)
  | .root => do
    let filter ← site.nodeFilter
    return [rootFragment site.node.toRelation paging filter]
  | .joined parent on => do
    let key ← site.callJoin .join on parent site.node.aliasName
    let filter ← site.nodeFilter
    return [directFragment site.node.toRelation paging .left { key } filter]
  | .joinedThrough parent junction toJunction toNode => do
    let key ← site.callJoin (.junctionJoin 0) toJunction parent junction.aliasName
    let junctionFilter ← site.junctionFilter junction
    let nodeFilter ← site.nodeFilter
    let onNode ← site.callJoin (.junctionJoin 1) toNode junction.aliasName site.node.aliasName
    return junctionFragments site.node junction paging { key }
      { junctionFilter, nodeFilter, onNode }
  | .batched keys => do
    let tie := site.batchTie site.node.aliasName keys (scope.headD .null) scope
    let filter ← site.nodeFilter
    return [.batch keys.parentKey.name scope,
      directFragment site.node.toRelation paging .inner tie filter]
  | .batchedThrough junction batch => do
    let tie := site.batchTie junction.aliasName batch.keys (scope.headD .null) scope
    let junctionFilter ← site.junctionFilter junction
    let nodeFilter ← site.nodeFilter
    let onNode ← site.callJoin .batchJoin batch.join junction.aliasName site.node.aliasName
    return .batch batch.keys.parentKey.name scope ::
      junctionFragments site.node junction paging tie { junctionFilter, nodeFilter, onNode }

/-- The keys that a link is compiled for: a batched one needs some, the others need none. -/
def Link.scope (link : Link κ) (batch : Option (List Value)) :
    Except ConfigFault (List Value) :=
  match link with
  | .batched _ | .batchedThrough .. =>
    match batch with
    | none => .error .noBatchScope
    | some [] => .error .emptyBatchScope
    | some scope => .ok scope
  | _ => .ok []

/-- What is settled of a relation before its callbacks are called. -/
structure Plan (κ : Type) where
  link : Link κ
  paging : Paging
  scope : List Value

/-- Settle the link, the paging and the batch of a relation. -/
def Node.plan (config : Config) (node : Node κ) (parent : Option String)
    (batch : Option (List Value)) : Except Error (Plan κ) := do
  let link ← (node.link parent).mapError (.config · node.aliasName)
  let paging ← node.paging config
  let scope ← (link.scope batch).mapError (.config · node.aliasName)
  return { link, paging, scope }

/-- Compile a relation under a parent with an alias, or for a batch of parent keys. -/
def Node.compile (config : Config) (node : Node κ) (parent : Option String) (context : κ)
    (batch : Option (List Value)) : Run Compiled := do
  let plan ← Run.ofExcept (node.plan config parent batch)
  let site : Site κ := { dialect := config.dialect, node, context }
  let fragments ← site.fragments plan.paging plan.scope plan.link
  return { strategy := plan.link.strategy, page := plan.paging.info?, fragments }

end PagedJoins
