import PagedJoins.Compile.Relation
import PagedJoins.Proofs.Outcome

/-!
# Compilations that succeed

A run succeeds only if all its steps do, so of a relation that was compiled every callback
was answered. What the answers are is said here without the run: a callback was asked about
the quoted aliases of its tables, and this is what it said.
-/

namespace PagedJoins

variable {κ : Type}

/-! ## Answers -/

namespace Site

/-- What a filter says about the table with an alias; without a filter there is nothing said. -/
def FilterAnswers (site : Site κ) (filter : Option (Filter κ)) (aliasName : String)
    (answer : Option String) : Prop :=
  match filter with
  | none => answer = none
  | some filter =>
    filter {
      table := site.dialect.quote aliasName
      relation := site.node.toRelation
      context := site.context } = .ok answer

/-- What a join condition says about the tables with two aliases. -/
def JoinAnswers (site : Site κ) (condition : JoinCondition κ) (parentAlias childAlias : String)
    (answer : String) : Prop :=
  condition {
    parent := site.dialect.quote parentAlias
    child := site.dialect.quote childAlias
    relation := site.node.toRelation
    context := site.context } = .ok answer

variable {site : Site κ}

theorem filterAnswers_of_callFilter {place : CallSite} {filter : Option (Filter κ)}
    {aliasName : String} {answer : Option String}
    (succeeds : (site.callFilter place filter aliasName).outcome = .ok answer) :
    site.FilterAnswers filter aliasName answer := by
  cases filter with
  | none => exact (Run.pure_eq_ok succeeds).symm
  | some filter => exact Run.call_eq_ok succeeds

theorem joinAnswers_of_callJoin {place : CallSite} {condition : JoinCondition κ}
    {parentAlias childAlias : String} {answer : String}
    (succeeds : (site.callJoin place condition parentAlias childAlias).outcome = .ok answer) :
    site.JoinAnswers condition parentAlias childAlias answer :=
  Run.call_eq_ok succeeds

/-- Are these the fragments that a link is made into, with what its callbacks say? -/
inductive Builds (site : Site κ) (paging : Paging) (scope : List Value) :
    Link κ → List Fragment → Prop where
  | root {filter : Option String}
      (filtered : site.FilterAnswers site.node.filter site.node.aliasName filter) :
      Builds site paging scope .root [rootFragment site.node.toRelation paging filter]
  | joined {parent key : String} {on : JoinCondition κ} {filter : Option String}
      (reached : site.JoinAnswers on parent site.node.aliasName key)
      (filtered : site.FilterAnswers site.node.filter site.node.aliasName filter) :
      Builds site paging scope (.joined parent on)
        [directFragment site.node.toRelation paging .left { key } filter]
  | joinedThrough {parent key : String} {junction : Junction κ}
      {toJunction toNode : JoinCondition κ} {answers : JunctionAnswers}
      (reached : site.JoinAnswers toJunction parent junction.aliasName key)
      (restricted :
        site.FilterAnswers junction.filter junction.aliasName answers.junctionFilter)
      (filtered : site.FilterAnswers site.node.filter site.node.aliasName answers.nodeFilter)
      (joined :
        site.JoinAnswers toNode junction.aliasName site.node.aliasName answers.onNode) :
      Builds site paging scope (.joinedThrough parent junction toJunction toNode)
        (junctionFragments site.node junction paging { key } answers)
  | batched {keys : BatchKeys} {filter : Option String}
      (filtered : site.FilterAnswers site.node.filter site.node.aliasName filter) :
      Builds site paging scope (.batched keys)
        [.batch keys.parentKey.name scope,
          directFragment site.node.toRelation paging .inner
            (site.batchTie site.node.aliasName keys (scope.headD .null) scope) filter]
  | batchedThrough {junction : Junction κ} {batch : JunctionBatch κ} {answers : JunctionAnswers}
      (restricted :
        site.FilterAnswers junction.filter junction.aliasName answers.junctionFilter)
      (filtered : site.FilterAnswers site.node.filter site.node.aliasName answers.nodeFilter)
      (joined :
        site.JoinAnswers batch.join junction.aliasName site.node.aliasName answers.onNode) :
      Builds site paging scope (.batchedThrough junction batch)
        (.batch batch.keys.parentKey.name scope ::
          junctionFragments site.node junction paging
            (site.batchTie junction.aliasName batch.keys (scope.headD .null) scope) answers)

/-- A link is made into its fragments only with what its callbacks have said. -/
theorem builds_of_fragments {paging : Paging} {scope : List Value} {link : Link κ}
    {fragments : List Fragment}
    (succeeds : (site.fragments paging scope link).outcome = .ok fragments) :
    site.Builds paging scope link fragments := by
  cases link with
  | root =>
      obtain ⟨filter, filtered, result⟩ := Run.bind_eq_ok succeeds
      rw [← Run.pure_eq_ok result]
      exact .root (filterAnswers_of_callFilter filtered)
  | joined parent on =>
      obtain ⟨key, reached, rest⟩ := Run.bind_eq_ok succeeds
      obtain ⟨filter, filtered, result⟩ := Run.bind_eq_ok rest
      rw [← Run.pure_eq_ok result]
      exact .joined (joinAnswers_of_callJoin reached) (filterAnswers_of_callFilter filtered)
  | joinedThrough parent junction toJunction toNode =>
      obtain ⟨key, reached, rest⟩ := Run.bind_eq_ok succeeds
      obtain ⟨junctionFilter, restricted, rest⟩ := Run.bind_eq_ok rest
      obtain ⟨nodeFilter, filtered, rest⟩ := Run.bind_eq_ok rest
      obtain ⟨onNode, joined, result⟩ := Run.bind_eq_ok rest
      rw [← Run.pure_eq_ok result]
      exact .joinedThrough (joinAnswers_of_callJoin reached)
        (filterAnswers_of_callFilter restricted) (filterAnswers_of_callFilter filtered)
        (joinAnswers_of_callJoin joined)
  | batched keys =>
      obtain ⟨filter, filtered, result⟩ := Run.bind_eq_ok succeeds
      rw [← Run.pure_eq_ok result]
      exact .batched (filterAnswers_of_callFilter filtered)
  | batchedThrough junction batch =>
      obtain ⟨junctionFilter, restricted, rest⟩ := Run.bind_eq_ok succeeds
      obtain ⟨nodeFilter, filtered, rest⟩ := Run.bind_eq_ok rest
      obtain ⟨onNode, joined, result⟩ := Run.bind_eq_ok rest
      rw [← Run.pure_eq_ok result]
      exact .batchedThrough (filterAnswers_of_callFilter restricted)
        (filterAnswers_of_callFilter filtered) (joinAnswers_of_callJoin joined)

end Site

/-! ## Links -/

/-- Does the relation offer this link under a parent, and is the batch, if the link needs one, a
batch of these keys? -/
def Link.Offered (node : Node κ) (parent : Option String) (batch : Option (List Value))
    (scope : List Value) : Link κ → Prop
  | .root => node.junction = none ∧ node.join = none ∧ node.batch = none ∧ parent = none
  | .joined parentAlias on =>
    node.junction = none ∧ node.join = some on ∧ parent = some parentAlias
  | .joinedThrough parentAlias junction toJunction toNode =>
    node.junction = some junction ∧ parent = some parentAlias ∧
      ∃ others, junction.joins = toJunction :: toNode :: others
  | .batched keys =>
    node.junction = none ∧ node.batch = some keys ∧ batch = some scope ∧ scope ≠ []
  | .batchedThrough junction junctionBatch =>
    node.junction = some junction ∧ junction.batch = some junctionBatch ∧
      batch = some scope ∧ scope ≠ []

variable {node : Node κ} {parent : Option String} {batch : Option (List Value)}
variable {scope : List Value} {link : Link κ}

theorem Link.scope_batched {keys : BatchKeys}
    (given : (Link.batched keys : Link κ).scope batch = .ok scope) :
    batch = some scope ∧ scope ≠ [] := by
  rcases batch with - | - | ⟨key, others⟩
  · cases given
  · cases given
  · cases given
    exact ⟨rfl, List.cons_ne_nil _ _⟩

/-- The link without a junction is one that the relation offers. -/
theorem directLink_offered (alone : node.junction = none)
    (chosen : directLink node.join node.batch parent = .ok link)
    (given : link.scope batch = .ok scope) : link.Offered node parent batch scope := by
  unfold directLink at chosen
  split at chosen
  · cases chosen
  · rename_i keys
    cases chosen
    exact ⟨alone, keys, Link.scope_batched given⟩
  · rename_i join _
    cases chosen
    exact ⟨alone, join, rfl⟩
  · cases chosen
  · cases chosen
  · rename_i join keys
    cases chosen
    exact ⟨alone, join, keys, rfl⟩

theorem junctionLink_offered {junction : Junction κ} (through : node.junction = some junction)
    (chosen : junction.link parent = .ok link) (given : link.scope batch = .ok scope) :
    link.Offered node parent batch scope := by
  unfold Junction.link at chosen
  split at chosen
  · cases chosen
  · rename_i junctionBatch keyed _
    cases chosen
    exact ⟨through, keyed, @Link.scope_batched κ batch scope junctionBatch.keys given⟩
  · cases chosen
  · cases chosen
  · cases chosen
  · rename_i joins
    cases chosen
    exact ⟨through, rfl, _, joins⟩

/-- The link of a relation is one that it offers. -/
theorem Node.link_offered (chosen : node.link parent = .ok link)
    (given : link.scope batch = .ok scope) : link.Offered node parent batch scope := by
  unfold Node.link at chosen
  split at chosen
  · rename_i junction through
    split at chosen
    · cases chosen
    · exact junctionLink_offered through chosen given
  · rename_i alone
    exact directLink_offered alone chosen given

/-- A plan has a link that the relation offers, and the paging that it asks for. -/
theorem Node.plan_eq_ok {config : Config} {plan : Plan κ}
    (settled : node.plan config parent batch = .ok plan) :
    plan.link.Offered node parent batch plan.scope ∧ node.paging config = .ok plan.paging := by
  obtain ⟨link, chosen, rest⟩ := exists_of_bind_eq_ok settled
  obtain ⟨paging, paged, rest⟩ := exists_of_bind_eq_ok rest
  obtain ⟨scope, given, result⟩ := exists_of_bind_eq_ok rest
  cases result
  exact ⟨Node.link_offered (eq_ok_of_mapError_eq_ok chosen) (eq_ok_of_mapError_eq_ok given),
    paged⟩

/-- A relation that was compiled has a plan, and its callbacks have answered. -/
theorem Node.compile_eq_ok {config : Config} {context : κ} {compiled : Compiled}
    (succeeds : (node.compile config parent context batch).outcome = .ok compiled) :
    ∃ plan, node.plan config parent batch = .ok plan ∧
      (({ dialect := config.dialect, node, context } : Site κ).fragments plan.paging plan.scope
        plan.link).outcome = .ok compiled.fragments := by
  obtain ⟨plan, settled, rest⟩ := Run.bind_eq_ok succeeds
  obtain ⟨fragments, answered, result⟩ := Run.bind_eq_ok rest
  refine ⟨plan, Run.ofExcept_eq_ok settled, ?_⟩
  rw [← Run.pure_eq_ok result]
  exact answered

theorem Node.compile_of_plan {config : Config} {context : κ} {compiled : Compiled} {plan : Plan κ}
    (settled : node.plan config parent batch = .ok plan)
    (succeeds : (node.compile config parent context batch).outcome = .ok compiled) :
    compiled.strategy = plan.link.strategy ∧ compiled.page = plan.paging.info? := by
  obtain ⟨plan', settled', rest⟩ := Run.bind_eq_ok succeeds
  cases settled.symm.trans (Run.ofExcept_eq_ok settled')
  obtain ⟨fragments, -, result⟩ := Run.bind_eq_ok rest
  rw [← Run.pure_eq_ok result]
  exact ⟨rfl, rfl⟩

end PagedJoins
