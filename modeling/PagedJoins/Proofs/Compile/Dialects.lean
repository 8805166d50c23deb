import PagedJoins.Proofs.Compile.Answers
import PagedJoins.Proofs.Compile.Walk

/-!
# Two dialects side by side

The dialect decides on how aliases are quoted and on how a fragment is written at the end. It
has no say in what is compiled: run for two dialects, a compilation makes the same steps, calls
the same callbacks about the same tables, and ends in the same way, as long as what the
callbacks do does not hang on how an alias is quoted. What may differ is the text.
-/

namespace PagedJoins

/-! ## Runs side by side -/

section Runs

variable {α β γ δ : Type}

/-- Do two outcomes end in the same way, with values that are related if there are any? -/
inductive Outcome.Alike (related : α → β → Prop) : Outcome α → Outcome β → Prop where
  | ok {value : α} {value' : β} (relates : related value value') :
      Alike related (.ok value) (.ok value')
  | failed (error : Error) : Alike related (.failed error) (.failed error)
  | cancelled (reason : String) : Alike related (.cancelled reason) (.cancelled reason)
  | panicked (message : String) : Alike related (.panicked message) (.panicked message)

/-- Are two calls of the same callback about the same tables, quoted for two dialects? -/
def Call.Alike (dialect dialect' : Dialect) (call call' : Call) : Prop :=
  call.site = call'.site ∧ call.node = call'.node ∧
    ∃ aliases : List String,
      call.tables = aliases.map dialect.quote ∧ call'.tables = aliases.map dialect'.quote

/-- Do two runs for two dialects make the same calls, and end in the same way? -/
structure Run.Alike (dialect dialect' : Dialect) (related : α → β → Prop) (run : Run α)
    (run' : Run β) : Prop where
  calls : List.Forall₂ (Call.Alike dialect dialect') run.calls run'.calls
  outcome : run.outcome.Alike related run'.outcome

namespace Outcome.Alike

variable {related : α → β → Prop} {outcome : Outcome α} {outcome' : Outcome β}

theorem imp {other : α → β → Prop} (alike : outcome.Alike related outcome')
    (implies : ∀ value value', outcome = .ok value → outcome' = .ok value' →
      related value value' → other value value') : outcome.Alike other outcome' := by
  cases alike with
  | ok relates => exact .ok (implies _ _ rfl rfl relates)
  | failed error => exact .failed error
  | cancelled reason => exact .cancelled reason
  | panicked message => exact .panicked message

theorem mapError (alike : outcome.Alike related outcome') (f : Error → Error) :
    (outcome.mapError f).Alike related (outcome'.mapError f) := by
  cases alike with
  | ok relates => exact .ok relates
  | failed error => exact .failed (f error)
  | cancelled reason => exact .cancelled reason
  | panicked message => exact .panicked message

end Outcome.Alike

namespace Run.Alike

variable {dialect dialect' : Dialect} {related : α → β → Prop} {related' : γ → δ → Prop}

theorem pure {value : α} {value' : β} (relates : related value value') :
    Run.Alike dialect dialect' related (pure value) (pure value') :=
  ⟨.nil, .ok relates⟩

theorem ofExcept (step : Except Error α) :
    Run.Alike dialect dialect' (fun value value' => step = .ok value ∧ value = value')
      (ofExcept step) (ofExcept step) := by
  refine ⟨.nil, ?_⟩
  cases step with
  | ok value => exact .ok ⟨rfl, rfl⟩
  | error error => exact .failed error

theorem bind {run : Run α} {run' : Run β} {next : α → Run γ} {next' : β → Run δ}
    (first : Run.Alike dialect dialect' related run run')
    (rest : ∀ value value', related value value' →
      Run.Alike dialect dialect' related' (next value) (next' value')) :
    Run.Alike dialect dialect' related' (run >>= next) (run' >>= next') := by
  obtain ⟨calls, outcome⟩ := run
  obtain ⟨calls', outcome'⟩ := run'
  obtain ⟨called, ends⟩ := first
  cases ends with
  | ok relates =>
      obtain ⟨later, ends⟩ := rest _ _ relates
      exact ⟨List.rel_append called later, ends⟩
  | failed error => exact ⟨called, .failed error⟩
  | cancelled reason => exact ⟨called, .cancelled reason⟩
  | panicked message => exact ⟨called, .panicked message⟩

theorem mapM {ε : Type} {step : ε → Run α} {step' : ε → Run β} {elements : List ε}
    (each : ∀ element ∈ elements,
      Run.Alike dialect dialect' related (step element) (step' element)) :
    Run.Alike dialect dialect' (List.Forall₂ related) (elements.mapM step)
      (elements.mapM step') := by
  induction elements with
  | nil => exact .pure .nil
  | cons element elements ih =>
      obtain ⟨here, later⟩ := List.forall_mem_cons.mp each
      rw [List.mapM_cons, List.mapM_cons]
      refine .bind here fun value value' relates => ?_
      exact .bind (ih later) fun values values' relate => .pure (.cons relates relate)

end Run.Alike

end Runs

variable {κ : Type}

/-! ## Callbacks -/

/-- Does a filter end in the same way however the alias of its table is quoted? The text of its
answer may be another. -/
def Filter.Indifferent (filter : Filter κ) : Prop :=
  ∀ scope table, (filter scope).Alike (fun _ _ => True) (filter { scope with table })

/-- Does a join condition end in the same way however the aliases of its tables are quoted? The text
of its answer may be another. -/
def JoinCondition.Indifferent (condition : JoinCondition κ) : Prop :=
  ∀ scope parent child,
    (condition scope).Alike (fun _ _ => True) (condition { scope with parent, child })

/-- Are the callbacks of a relation indifferent to how aliases are quoted? -/
structure Node.Indifferent (node : Node κ) : Prop where
  filter : ∀ filter, node.filter = some filter → Filter.Indifferent filter
  join : ∀ on, node.join = some on → JoinCondition.Indifferent on
  junctionFilter : ∀ junction filter, node.junction = some junction →
    junction.filter = some filter → Filter.Indifferent filter
  junctionJoin : ∀ junction, node.junction = some junction →
    ∀ on ∈ junction.joins, JoinCondition.Indifferent on
  batchJoin : ∀ junction batch, node.junction = some junction →
    junction.batch = some batch → JoinCondition.Indifferent batch.join

namespace Site

variable {node : Node κ} {context : κ} (dialect dialect' : Dialect)

theorem callFilter_alike (place : CallSite) {filter : Option (Filter κ)}
    (indifferent : ∀ given, filter = some given → Filter.Indifferent given) (aliasName : String) :
    Run.Alike dialect dialect' (fun _ _ => True)
      (({ dialect, node, context } : Site κ).callFilter place filter aliasName)
      (({ dialect := dialect', node, context } : Site κ).callFilter place filter aliasName) := by
  cases filter with
  | none => exact .pure trivial
  | some filter =>
      refine ⟨.cons ⟨rfl, rfl, [aliasName], rfl, rfl⟩ .nil, ?_⟩
      exact (indifferent filter rfl _ _).mapError _

theorem callJoin_alike (place : CallSite) {condition : JoinCondition κ}
    (indifferent : JoinCondition.Indifferent condition) (parentAlias childAlias : String) :
    Run.Alike dialect dialect' (fun _ _ => True)
      (({ dialect, node, context } : Site κ).callJoin place condition parentAlias childAlias)
      (({ dialect := dialect', node, context } : Site κ).callJoin place condition parentAlias
        childAlias) := by
  refine ⟨.cons ⟨rfl, rfl, [parentAlias, childAlias], rfl, rfl⟩ .nil, ?_⟩
  exact (indifferent _ _ _).mapError _

end Site

/-! ## Relations -/

/-- What there is of a fragment without its text: its kind, its alias, and if it is a page. -/
def Fragment.outline (fragment : Fragment) : FragmentKind × String × Bool :=
  (fragment.kind, fragment.aliasName, fragment.isPaginated)

theorem outline_rootFragment (relation : Relation) (paging : Paging)
    (filter filter' : Option String) :
    (rootFragment relation paging filter).outline =
      (rootFragment relation paging filter').outline := by
  cases paging <;> rfl

theorem outline_directFragment (relation : Relation) (paging : Paging) (kind : JoinKind)
    (tie tie' : Tie) (filter filter' : Option String) :
    (directFragment relation paging kind tie filter).outline =
      (directFragment relation paging kind tie' filter').outline := by
  cases paging <;> rfl

theorem outline_junctionFragments (node : Node κ) (junction : Junction κ) (paging : Paging)
    (tie tie' : Tie) (answers answers' : JunctionAnswers) :
    (junctionFragments node junction paging tie answers).map Fragment.outline =
      (junctionFragments node junction paging tie' answers').map Fragment.outline := by
  cases paging <;> rfl

/-- The fragments of a link are alike but for their texts. -/
theorem Site.fragments_alike (dialect dialect' : Dialect) {node : Node κ} {context : κ}
    {parent : Option String} {batch : Option (List Value)} {scope : List Value} {link : Link κ}
    (indifferent : node.Indifferent) (offered : link.Offered node parent batch scope)
    (paging : Paging) :
    Run.Alike dialect dialect'
      (fun fragments fragments' =>
        fragments.map Fragment.outline = fragments'.map Fragment.outline)
      (({ dialect, node, context } : Site κ).fragments paging scope link)
      (({ dialect := dialect', node, context } : Site κ).fragments paging scope link) := by
  cases link with
  | root =>
      refine .bind (callFilter_alike dialect dialect' _ indifferent.filter _) ?_
      intro filter filter' _
      exact .pure (congrArg (· :: []) (outline_rootFragment ..))
  | joined parentAlias on =>
      obtain ⟨-, joined, -⟩ := offered
      refine .bind (callJoin_alike dialect dialect' _ (indifferent.join on joined) _ _) ?_
      intro key key' _
      refine .bind (callFilter_alike dialect dialect' _ indifferent.filter _) ?_
      intro filter filter' _
      exact .pure (congrArg (· :: []) (outline_directFragment ..))
  | joinedThrough parentAlias junction toJunction toNode =>
      obtain ⟨through, -, others, joins⟩ := offered
      have each := indifferent.junctionJoin junction through
      rw [joins] at each
      refine .bind (callJoin_alike dialect dialect' _ (each _ (.head _)) _ _) ?_
      intro key key' _
      refine .bind (callFilter_alike dialect dialect' _
        (fun filter => indifferent.junctionFilter junction filter through) _) ?_
      intro junctionFilter junctionFilter' _
      refine .bind (callFilter_alike dialect dialect' _ indifferent.filter _) ?_
      intro nodeFilter nodeFilter' _
      refine .bind (callJoin_alike dialect dialect' _ (each _ (.tail _ (.head _))) _ _) ?_
      intro onNode onNode' _
      exact .pure (outline_junctionFragments ..)
  | batched keys =>
      refine .bind (callFilter_alike dialect dialect' _ indifferent.filter _) ?_
      intro filter filter' _
      exact .pure (congrArg (_ :: · :: []) (outline_directFragment ..))
  | batchedThrough junction junctionBatch =>
      obtain ⟨through, batched, -⟩ := offered
      refine .bind (callFilter_alike dialect dialect' _
        (fun filter => indifferent.junctionFilter junction filter through) _) ?_
      intro junctionFilter junctionFilter' _
      refine .bind (callFilter_alike dialect dialect' _ indifferent.filter _) ?_
      intro nodeFilter nodeFilter' _
      refine .bind (callJoin_alike dialect dialect' _
        (indifferent.batchJoin junction junctionBatch through batched) _ _) ?_
      intro onNode onNode' _
      exact .pure (congrArg (_ :: ·) (outline_junctionFragments ..))

/-- Are two compiled relations alike but for their texts? -/
structure Compiled.Alike (compiled compiled' : Compiled) : Prop where
  strategy : compiled.strategy = compiled'.strategy
  page : compiled.page = compiled'.page
  fragments : compiled.fragments.map Fragment.outline = compiled'.fragments.map Fragment.outline

section Compile

variable (config : Config) (dialect : Dialect) (context : κ) (batch : Option (List Value))

/-- Nothing that is settled before the callbacks hangs on the dialect. -/
theorem Node.plan_dialect (node : Node κ) (parent : Option String) :
    node.plan { config with dialect } parent batch = node.plan config parent batch :=
  rfl

/-- A relation is compiled alike for another dialect. -/
theorem Node.compile_alike {node : Node κ} (indifferent : node.Indifferent)
    (parent : Option String) :
    Run.Alike config.dialect dialect Compiled.Alike (node.compile config parent context batch)
      (node.compile { config with dialect } parent context batch) := by
  rw [compile, compile, plan_dialect]
  refine .bind (.ofExcept _) ?_
  rintro plan _ ⟨settled, rfl⟩
  refine .bind (Site.fragments_alike config.dialect dialect indifferent
    (plan_eq_ok settled).1 plan.paging) ?_
  intro fragments fragments' outlines
  exact .pure ⟨rfl, rfl, outlines⟩

namespace Tree

/-- Are the results of a tree for two dialects about the same relations and alike but for their
texts, and do the same trees wait under the same parents? -/
structure Result.Alike (result result' : Result κ) : Prop where
  nodes : List.Forall₂ Compiled.Alike result.nodes result'.nodes
  deferred : result.deferred = result'.deferred

/-- A tree is compiled alike for another dialect. -/
theorem compile_alike {tree : Tree κ}
    (indifferent : ∀ visit ∈ tree.visits, visit.tree.node.Indifferent) :
    Run.Alike config.dialect dialect Result.Alike (tree.compile config context batch)
      (tree.compile { config with dialect } context batch) := by
  rw [compile_eq_compileVisits _ _ _ [], compile_eq_compileVisits _ _ _ [], compileVisits,
    compileVisits]
  refine .bind (.mapM fun visit member => ?_) fun nodes nodes' alike => .pure ⟨alike, rfl⟩
  exact Node.compile_alike config dialect context _
    (indifferent visit (List.mem_of_mem_filter member)) visit.parent

/-- Are the compiled relations of a result those of some visits, one by one? -/
def Result.Compiles (visits : List (Visit κ)) (result : Result κ) : Prop :=
  List.Forall₂ (fun visit compiled => (visit.compile config context batch).outcome = .ok compiled)
    visits result.nodes

/-- The dialect changes nothing but texts. For two dialects, a relation whose callbacks do not hang
on how aliases are quoted calls the same callbacks in the same order, about the same tables, and
ends in the same way: with the same error, or compiled by the same strategy, with the same page,
into fragments that agree one by one but for their texts. So does a tree of such relations, of
which the same are compiled and the same are put off. -/
theorem compile_differs_in_text :
    (∀ (node : Node κ) (parent : Option String), node.Indifferent →
      Run.Alike config.dialect dialect Compiled.Alike
        (node.compile config parent context batch)
        (node.compile { config with dialect } parent context batch)) ∧
    ∀ tree : Tree κ, (∀ visit ∈ tree.visits, visit.tree.node.Indifferent) →
      Run.Alike config.dialect dialect
        (fun result result' => result.Alike result' ∧ ∃ visits,
          result.Compiles config context batch visits ∧
          result'.Compiles { config with dialect } context batch visits)
        (tree.compile config context batch)
        (tree.compile { config with dialect } context batch) := by
  refine ⟨fun node parent indifferent => node.compile_alike config dialect context batch
    indifferent parent, ?_⟩
  intro tree indifferent
  have alike := compile_alike config dialect context batch indifferent
  refine ⟨alike.calls, alike.outcome.imp fun result result' succeeds succeeds' same => ?_⟩
  exact ⟨same, _, (compile_eq_ok [] succeeds).1, (compile_eq_ok [] succeeds').1⟩

/-- The posts of users that are no drafts, a page of them for each user. -/
def publishedPosts : Node Unit where
  table := "posts"
  aliasName := "p"
  args := { first := some 5 }
  filter := some fun scope => .ok (some ("NOT " ++ scope.table ++ ".draft"))
  join := some fun scope => .ok (scope.parent ++ ".id = " ++ scope.child ++ ".user_id")
  orderBy := some [⟨"id", .desc⟩]

/-- Users with their posts. -/
def usersWithPosts : Tree Unit :=
  mk { table := "users", aliasName := "u" } [mk publishedPosts []]

/-- Users and posts are compiled alike for two dialects that attach pages in different ways. -/
theorem compile_differs_in_text_usersWithPosts :
    (∀ visit ∈ usersWithPosts.visits, visit.tree.node.Indifferent) ∧
      Run.Alike .postgres .sqlite
        (fun result result' => result.Alike result' ∧ ∃ visits,
          result.Compiles {} () none visits ∧
          result'.Compiles { dialect := .sqlite } () none visits)
        (usersWithPosts.compile {} () none)
        (usersWithPosts.compile { dialect := .sqlite } () none) := by
  have users : ({ table := "users", aliasName := "u" } : Node Unit).Indifferent :=
    ⟨nofun, nofun, nofun, nofun, nofun⟩
  have posts : publishedPosts.Indifferent := by
    refine ⟨?_, ?_, nofun, nofun, nofun⟩
    · rintro _ ⟨⟩ scope table
      exact .ok trivial
    · rintro _ ⟨⟩ scope parent child
      exact .ok trivial
  have indifferent : ∀ visit ∈ usersWithPosts.visits, visit.tree.node.Indifferent := by
    have walk : usersWithPosts.visits.map (·.tree.node) =
        [{ table := "users", aliasName := "u" }, publishedPosts] := rfl
    intro visit member
    have known := List.mem_map_of_mem (f := fun visit => visit.tree.node) member
    rw [walk] at known
    simp only [List.mem_cons, List.not_mem_nil, or_false] at known
    obtain first | second := known
    · exact first ▸ users
    · exact second ▸ posts
  exact ⟨indifferent, (compile_differs_in_text {} .sqlite () none).2 usersWithPosts indifferent⟩

end Tree

end Compile

end PagedJoins
