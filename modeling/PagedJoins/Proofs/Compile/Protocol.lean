import PagedJoins.Proofs.Compile.Answers
import PagedJoins.Proofs.Compile.Selection
import PagedJoins.Proofs.Sequence

/-!
# The order of callbacks

A strategy has a fixed list of places where callbacks are called, and a relation may lack the
filters among them. A relation that does not fit together calls none of its callbacks. Any
other one calls them in the order of the list until one does not succeed, and what becomes of
that one becomes of the relation: its error is attributed to the relation and to the hook of
the call, and anything else is handed on as it is.
-/

namespace PagedJoins

variable {κ : Type}

/-- The places of a strategy where callbacks are called, in order. -/
def Strategy.callSites : Strategy → List CallSite
  | root => [.filter]
  | joinedOneToMany => [.join, .filter]
  | joinedManyToMany => [.junctionJoin 0, .junctionFilter, .filter, .junctionJoin 1]
  | batchedOneToMany => [.filter]
  | batchedManyToMany => [.junctionFilter, .filter, .batchJoin]

/-- Why the batch that a strategy is given is refused, if it is: one that needs keys is given none, or
no batch at all. -/
def Strategy.batchFault? : Strategy → Option (List Value) → Option ConfigFault
  | batchedOneToMany, none | batchedManyToMany, none => some .noBatchScope
  | batchedOneToMany, some [] | batchedManyToMany, some [] => some .emptyBatchScope
  | _, _ => none

/-- Is there something to call at a place that may be empty? -/
def Node.hasFilterAt (node : Node κ) : CallSite → Bool
  | .filter => node.filter.isSome
  | .junctionFilter => node.junction.any (·.filter.isSome)
  | .join | .junctionJoin _ | .batchJoin => true

/-! ## Callbacks -/

/-- A callback, by the call that is made of it, the hook that its error is attributed to, and how it
ends. -/
structure Callback where
  call : Call
  hook : Hook
  outcome : Outcome Unit

/-- Make the call of a callback. -/
def Callback.run (callback : Callback) : Run Unit :=
  .call callback.call callback.outcome

namespace Site

variable (site : Site κ)

/-- A filter, asked about the table with an alias. -/
def filterCallback (place : CallSite) (hook : Hook) (aliasName : String) (filter : Filter κ) :
    Callback where
  call := ⟨place, site.node.aliasName, [site.dialect.quote aliasName]⟩
  hook
  outcome := (filter {
    table := site.dialect.quote aliasName
    relation := site.node.toRelation
    context := site.context }).map fun _ => ()

/-- A join condition, asked about the tables with two aliases. -/
def joinCallback (place : CallSite) (hook : Hook) (parentAlias childAlias : String)
    (condition : JoinCondition κ) : Callback where
  call := ⟨place, site.node.aliasName,
    [site.dialect.quote parentAlias, site.dialect.quote childAlias]⟩
  hook
  outcome := (condition {
    parent := site.dialect.quote parentAlias
    child := site.dialect.quote childAlias
    relation := site.node.toRelation
    context := site.context }).map fun _ => ()

/-- The callback of the relation at a place, if there is one. Whatever joins a junction, to its
parent or to its relation, is attributed to the same hook. -/
def callback? (parent : Option String) : CallSite → Option Callback
  | .filter =>
    site.node.filter.map (site.filterCallback .filter Hook.filter site.node.aliasName)
  | .join =>
    parent.bind fun parent =>
      site.node.join.map (site.joinCallback .join Hook.join parent site.node.aliasName)
  | .junctionFilter =>
    site.node.junction.bind fun junction =>
      junction.filter.map
        (site.filterCallback .junctionFilter Hook.junctionFilter junction.aliasName)
  | .junctionJoin 0 =>
    parent.bind fun parent => site.node.junction.bind fun junction =>
      junction.joins[0]?.map
        (site.joinCallback (.junctionJoin 0) Hook.junctionJoin parent junction.aliasName)
  | .junctionJoin (index + 1) =>
    site.node.junction.bind fun junction =>
      junction.joins[index + 1]?.map
        (site.joinCallback (.junctionJoin (index + 1)) Hook.junctionJoin junction.aliasName
          site.node.aliasName)
  | .batchJoin =>
    site.node.junction.bind fun junction => junction.batch.map fun batch =>
      site.joinCallback .batchJoin Hook.junctionJoin junction.aliasName site.node.aliasName
        batch.join

/-- The callbacks that a strategy calls, in order. -/
def callbacks (parent : Option String) (strategy : Strategy) : List Callback :=
  strategy.callSites.filterMap (site.callback? parent)

end Site

/-! ## Runs that go through callbacks -/

namespace Run

variable {α β : Type}

/-- Does a run end with the second outcome if its last callback has ended with the first? An error is
kept as the source of one that names the relation and the hook; a callback that was cancelled or
broke down leaves its reason or message as it is. -/
inductive EndsAs (aliasName : String) (hook : Hook) : Outcome Unit → Outcome α → Prop where
  | failed (error : Error) :
      EndsAs aliasName hook (.failed error) (.failed (.callback aliasName hook error))
  | cancelled (reason : String) : EndsAs aliasName hook (.cancelled reason) (.cancelled reason)
  | panicked (message : String) : EndsAs aliasName hook (.panicked message) (.panicked message)

/-- Does a run go through some callbacks of a relation? It calls them in order, and succeeds if
they all do. The first that does not succeed is the last that is called, and the run ends as it
did, its error attributed. -/
def GoesThrough (run : Run α) (aliasName : String) (callbacks : List Callback) : Prop :=
  ((∀ callback ∈ callbacks, callback.outcome = .ok ()) ∧
    run.calls = callbacks.map (·.call) ∧ ∃ value, run.outcome = .ok value) ∨
  ∃ before callback after,
    callbacks = before ++ callback :: after ∧
    (∀ earlier ∈ before, earlier.outcome = .ok ()) ∧
    run.calls = before.map (·.call) ++ [callback.call] ∧
    EndsAs aliasName callback.hook callback.outcome run.outcome

theorem endsAs_stopped (aliasName : String) (hook : Hook) (stop : Outcome Empty) :
    EndsAs aliasName hook (.stopped stop)
      (.stopped (stop.mapError (.callback aliasName hook)) : Outcome α) := by
  cases stop with
  | ok value => exact value.elim
  | failed error => exact .failed error
  | cancelled reason => exact .cancelled reason
  | panicked message => exact .panicked message

theorem EndsAs.not_ok {aliasName : String} {hook : Hook} {last : Outcome Unit}
    {outcome : Outcome α} (ends : EndsAs aliasName hook last outcome) :
    last ≠ .ok () ∧ ∀ value, outcome ≠ .ok value := by
  cases ends with
  | failed error => exact ⟨nofun, nofun⟩
  | cancelled reason => exact ⟨nofun, nofun⟩
  | panicked message => exact ⟨nofun, nofun⟩

/-- What ends as the run of a callback does, for which there is no value, has the error of the callback
attributed to the callback's own hook. -/
theorem endsAs_of_run {callback : Callback} {outcome : Outcome α} {stop : Outcome Empty}
    (hook : callback.call.site.hook = callback.hook)
    (stops : callback.run.outcome = .stopped stop)
    (ends : outcome.map (fun _ => ()) = .stopped stop) :
    EndsAs callback.call.node callback.hook callback.outcome outcome := by
  obtain ⟨value, succeeds⟩ | ⟨cause, failed⟩ := callback.outcome.ok_or_stopped
  · have succeeds' : callback.run.outcome = .ok value := by
      rw [Callback.run, Run.call, succeeds]
      rfl
    exact absurd (stops.symm.trans succeeds') (Outcome.stopped_ne_ok _ _)
  · rw [← stops, Callback.run, Run.call, failed, hook, Outcome.mapError_stopped] at ends
    rw [failed, Outcome.map_eq_stopped ends]
    exact endsAs_stopped _ _ cause

/-- Is a run, but for its value, nothing but the calls of some callbacks? -/
def Follows (run : Run α) (callbacks : List Callback) : Prop :=
  run.forget = (callbacks.mapM Callback.run).forget

theorem follows_pure (value : α) : (pure value : Run α).Follows [] :=
  rfl

theorem Follows.call {record : Call} {hook : Hook} {outcome : Outcome α} {next : α → Run β}
    {callbacks : List Callback} (rest : ∀ answer, (next answer).Follows callbacks) :
    (Run.call record outcome >>= next).Follows
      (⟨record, hook, outcome.map fun _ => ()⟩ :: callbacks) := by
  rw [Follows, forget_bind rest, forget_call, forget_mapM_cons, forget_unit]
  rfl

theorem Follows.bind_pure {run : Run α} {callbacks : List Callback}
    (follows : run.Follows callbacks) (f : α → β) :
    (run >>= fun value => pure (f value)).Follows callbacks := by
  rw [Follows, forget_bind_pure]
  exact follows

/-- A run that is nothing but the calls of some callbacks goes through them. -/
theorem Follows.goesThrough {run : Run α} {aliasName : String} {callbacks : List Callback}
    (follows : run.Follows callbacks)
    (own : ∀ callback ∈ callbacks,
      callback.call.node = aliasName ∧ callback.call.site.hook = callback.hook) :
    run.GoesThrough aliasName callbacks := by
  -- The calls and the end of the run, but not its value, are those of the callbacks one by one.
  have calls : run.calls = (callbacks.mapM Callback.run).calls := congrArg Run.calls follows
  have ends : run.outcome.map (fun _ => ()) =
      (callbacks.mapM Callback.run).outcome.map fun _ => () := congrArg Run.outcome follows
  obtain ⟨values, each, all⟩ | ⟨before, callback, after, stop, parts, each, stops, all⟩ :=
    mapM_cases Callback.run callbacks
  · left
    rw [all] at calls ends
    obtain ⟨value, succeeds, -⟩ := Outcome.map_eq_ok ends
    have answered := each.imp fun callback _ succeeds => And.intro (call_eq_ok succeeds) succeeds
    refine ⟨((List.forall₂_and_left _ _).mp answered).1, ?_, value, succeeds⟩
    rw [calls]
    exact List.map_eq_flatMap.symm
  · right
    rw [all] at calls ends
    obtain ⟨relation, hook⟩ := own callback (by simp [parts])
    refine ⟨before, callback, after, parts, ?_, ?_, ?_⟩
    · intro earlier member
      obtain ⟨_, succeeds⟩ := each earlier member
      exact call_eq_ok succeeds
    · rw [calls]
      exact congrArg (· ++ [callback.call]) List.map_eq_flatMap.symm
    · rw [← relation]
      exact endsAs_of_run hook stops (ends.trans (Outcome.map_stopped _ stop))

variable {run : Run α} {aliasName : String} {callbacks : List Callback}

/-- The callbacks that are called are the first ones. -/
theorem GoesThrough.calls_prefix (goes : run.GoesThrough aliasName callbacks) :
    run.calls <+: callbacks.map (·.call) := by
  obtain ⟨-, calls, -⟩ | ⟨before, callback, after, rfl, -, calls, -⟩ := goes
  · exact ⟨[], by rw [calls, List.append_nil]⟩
  · exact ⟨after.map (·.call), by simp [calls]⟩

/-- A run through callbacks succeeds exactly if they all do. -/
theorem GoesThrough.succeeds_iff (goes : run.GoesThrough aliasName callbacks) :
    (∃ value, run.outcome = .ok value) ↔
      ∀ callback ∈ callbacks, callback.outcome = .ok () := by
  obtain ⟨each, -, succeeds⟩ | ⟨before, callback, after, rfl, -, -, ends⟩ := goes
  · exact ⟨fun _ => each, fun _ => succeeds⟩
  · constructor
    · rintro ⟨value, succeeds⟩
      exact absurd succeeds (ends.not_ok.2 value)
    · intro each
      exact absurd (each callback (by simp)) ends.not_ok.1

end Run

/-! ## Relations -/

theorem filterMap_cons_toList {α β : Type} (f : α → Option β) (head : α) (tail : List α) :
    (head :: tail).filterMap f = (f head).toList ++ tail.filterMap f := by
  rw [List.filterMap_cons]
  cases f head with
  | none => rfl
  | some value => rfl

namespace Site

variable {site : Site κ} {α : Type} {rest : List Callback}

theorem follows_callJoin {place : CallSite} {hook : Hook} {condition : JoinCondition κ}
    {parentAlias childAlias : String} {next : String → Run α}
    (later : ∀ answer, (next answer).Follows rest) :
    (site.callJoin place condition parentAlias childAlias >>= next).Follows
      (site.joinCallback place hook parentAlias childAlias condition :: rest) :=
  Run.Follows.call later

theorem follows_callFilter {place : CallSite} {hook : Hook} {filter : Option (Filter κ)}
    {aliasName : String} {next : Option String → Run α} (later : ∀ answer, (next answer).Follows rest) :
    (site.callFilter place filter aliasName >>= next).Follows
      ((filter.map (site.filterCallback place hook aliasName)).toList ++ rest) := by
  cases filter with
  | none =>
      rw [callFilter, pure_bind]
      exact later none
  | some filter => exact Run.Follows.call later

/-- The fragments of a link are put together from the answers of the callbacks of its strategy. -/
theorem fragments_follows (site : Site κ) {parent : Option String} {batch : Option (List Value)}
    {scope : List Value} {link : Link κ} (offered : link.Offered site.node parent batch scope)
    (paging : Paging) :
    (site.fragments paging scope link).Follows (site.callbacks parent link.strategy) := by
  cases link with
  | root =>
      simp only [callbacks, Link.strategy, Strategy.callSites, filterMap_cons_toList]
      exact follows_callFilter fun _ => Run.follows_pure _
  | joined parentAlias on =>
      obtain ⟨-, joined, under⟩ := offered
      have first : site.callback? parent .join =
          some (site.joinCallback .join Hook.join parentAlias site.node.aliasName on) := by
        simp [callback?, joined, under]
      simp only [callbacks, Link.strategy, Strategy.callSites, filterMap_cons_toList, first]
      exact follows_callJoin fun _ => follows_callFilter fun _ => Run.follows_pure _
  | joinedThrough parentAlias junction toJunction toNode =>
      obtain ⟨through, under, others, joins⟩ := offered
      have first : site.callback? parent (.junctionJoin 0) =
          some (site.joinCallback (.junctionJoin 0) Hook.junctionJoin parentAlias
            junction.aliasName toJunction) := by
        simp [callback?, through, under, joins]
      have second : site.callback? parent .junctionFilter =
          junction.filter.map
            (site.filterCallback .junctionFilter Hook.junctionFilter junction.aliasName) := by
        simp [callback?, through]
      have last : site.callback? parent (.junctionJoin 1) =
          some (site.joinCallback (.junctionJoin 1) Hook.junctionJoin junction.aliasName
            site.node.aliasName toNode) := by
        simp [callback?, through, joins]
      simp only [callbacks, Link.strategy, Strategy.callSites, filterMap_cons_toList, first,
        second, last]
      exact follows_callJoin fun _ => follows_callFilter fun _ => follows_callFilter fun _ =>
        follows_callJoin fun _ => Run.follows_pure _
  | batched keys =>
      simp only [callbacks, Link.strategy, Strategy.callSites, filterMap_cons_toList]
      exact follows_callFilter fun _ => Run.follows_pure _
  | batchedThrough junction junctionBatch =>
      obtain ⟨through, batched, -⟩ := offered
      have first : site.callback? parent .junctionFilter =
          junction.filter.map
            (site.filterCallback .junctionFilter Hook.junctionFilter junction.aliasName) := by
        simp [callback?, through]
      have last : site.callback? parent .batchJoin =
          some (site.joinCallback .batchJoin Hook.junctionJoin junction.aliasName
            site.node.aliasName junctionBatch.join) := by
        simp [callback?, through, batched]
      simp only [callbacks, Link.strategy, Strategy.callSites, filterMap_cons_toList, first, last]
      exact follows_callFilter fun _ => follows_callFilter fun _ => follows_callJoin fun _ =>
        Run.follows_pure _

/-- The callback at a place is called there and for the relation, and its hook is the one that a
call at the place has. -/
theorem call_of_callback? {parent : Option String} {place : CallSite} {callback : Callback}
    (found : site.callback? parent place = some callback) :
    callback.call.site = place ∧ callback.call.node = site.node.aliasName ∧
      callback.call.site.hook = callback.hook := by
  unfold callback? at found
  split at found
  · obtain ⟨filter, -, rfl⟩ := Option.map_eq_some_iff.mp found
    exact ⟨rfl, rfl, rfl⟩
  · obtain ⟨parent, -, found⟩ := Option.bind_eq_some_iff.mp found
    obtain ⟨on, -, rfl⟩ := Option.map_eq_some_iff.mp found
    exact ⟨rfl, rfl, rfl⟩
  · obtain ⟨junction, -, found⟩ := Option.bind_eq_some_iff.mp found
    obtain ⟨filter, -, rfl⟩ := Option.map_eq_some_iff.mp found
    exact ⟨rfl, rfl, rfl⟩
  · obtain ⟨parent, -, found⟩ := Option.bind_eq_some_iff.mp found
    obtain ⟨junction, -, found⟩ := Option.bind_eq_some_iff.mp found
    obtain ⟨on, -, rfl⟩ := Option.map_eq_some_iff.mp found
    exact ⟨rfl, rfl, rfl⟩
  · obtain ⟨junction, -, found⟩ := Option.bind_eq_some_iff.mp found
    obtain ⟨on, -, rfl⟩ := Option.map_eq_some_iff.mp found
    exact ⟨rfl, rfl, rfl⟩
  · obtain ⟨junction, -, found⟩ := Option.bind_eq_some_iff.mp found
    obtain ⟨batch, -, rfl⟩ := Option.map_eq_some_iff.mp found
    exact ⟨rfl, rfl, rfl⟩

/-- At the places of its strategy a relation has all callbacks but the filters that it lacks. -/
theorem isSome_callback? (site : Site κ) {parent : Option String} {batch : Option (List Value)}
    {scope : List Value} {link : Link κ} (offered : link.Offered site.node parent batch scope) :
    ∀ place ∈ link.strategy.callSites,
      (site.callback? parent place).isSome = site.node.hasFilterAt place := by
  cases link with
  | root => simp [Link.strategy, Strategy.callSites, callback?, Node.hasFilterAt]
  | joined parentAlias on =>
      obtain ⟨-, joined, under⟩ := offered
      simp [Link.strategy, Strategy.callSites, callback?, Node.hasFilterAt, joined, under]
  | joinedThrough parentAlias junction toJunction toNode =>
      obtain ⟨through, under, others, joins⟩ := offered
      simp [Link.strategy, Strategy.callSites, callback?, Node.hasFilterAt, through, under, joins]
  | batched keys => simp [Link.strategy, Strategy.callSites, callback?, Node.hasFilterAt]
  | batchedThrough junction junctionBatch =>
      obtain ⟨through, batched, -⟩ := offered
      simp [Link.strategy, Strategy.callSites, callback?, Node.hasFilterAt, through, batched]

/-- The callbacks of a strategy are called at its places, but for the filters that are lacking. -/
theorem map_site_callbacks (site : Site κ) {parent : Option String} {batch : Option (List Value)}
    {scope : List Value} {link : Link κ} (offered : link.Offered site.node parent batch scope) :
    (site.callbacks parent link.strategy).map (·.call.site) =
      link.strategy.callSites.filter site.node.hasFilterAt := by
  have present := site.isSome_callback? offered
  unfold callbacks
  generalize link.strategy.callSites = places at present
  induction places with
  | nil => rfl
  | cons place places ih =>
      obtain ⟨here, later⟩ := List.forall_mem_cons.mp present
      rw [filterMap_cons_toList, List.map_append, ih later, List.filter_cons, ← here]
      cases found : site.callback? parent place with
      | none => rfl
      | some callback => simp [call_of_callback? found]

end Site

theorem Strategy.nodup_callSites (strategy : Strategy) : strategy.callSites.Nodup := by
  cases strategy <;> decide

section Node

variable {config : Config} {node : Node κ} {parent : Option String} {context : κ}
variable {batch : Option (List Value)}

theorem Link.scope_of_refused {link : Link κ} {fault : ConfigFault}
    (refused : link.strategy.batchFault? batch = some fault) :
    link.scope batch = .error fault := by
  cases link with
  | root | joined | joinedThrough => cases refused
  | batched | batchedThrough =>
      rcases batch with - | - | ⟨key, others⟩
      · cases refused
        rfl
      · cases refused
        rfl
      · cases refused

theorem Link.exists_scope {link : Link κ} (fits : link.strategy.batchFault? batch = none) :
    ∃ scope, link.scope batch = .ok scope := by
  cases link with
  | root | joined | joinedThrough => exact ⟨[], rfl⟩
  | batched | batchedThrough =>
      rcases batch with - | - | ⟨key, others⟩
      · cases fits
      · cases fits
      · exact ⟨key :: others, rfl⟩

theorem Node.plan_of_link {link : Link κ} {paging : Paging} (chosen : node.link parent = .ok link)
    (paged : node.paging config = .ok paging) :
    node.plan config parent batch =
      (fun scope => ⟨link, paging, scope⟩) <$>
        (link.scope batch).mapError (.config · node.aliasName) := by
  rw [plan, chosen, paged, map_eq_pure_bind]
  rfl

theorem Node.compile_of_refused {error : Error}
    (refused : node.plan config parent batch = .error error) :
    node.compile config parent context batch = ⟨[], .failed error⟩ := by
  rw [compile, refused]
  rfl

/-- A relation with a plan goes through the callbacks of its strategy. -/
theorem Node.compile_goesThrough {plan : Plan κ}
    (settled : node.plan config parent batch = .ok plan) :
    (node.compile config parent context batch).GoesThrough node.aliasName
      (({ dialect := config.dialect, node, context } : Site κ).callbacks parent
        plan.link.strategy) := by
  have follows := Site.fragments_follows { dialect := config.dialect, node, context }
    (Node.plan_eq_ok settled).1 plan.paging
  have compiled := follows.bind_pure fun fragments =>
    ({ strategy := plan.link.strategy, page := plan.paging.info?, fragments } : Compiled)
  rw [compile, settled]
  apply compiled.goesThrough
  intro callback member
  obtain ⟨place, -, found⟩ := List.mem_filterMap.mp member
  exact (Site.call_of_callback? found).2

end Node

/-- The order of the callbacks of a relation. If no strategy fits its shape, if its paging cannot be
had, or if its batch is missing or empty, it is refused for the first of these causes, and no
callback is called. Its strategy finds all of its parts, and the callbacks are called in the order
of the strategy, without the filters that the relation lacks, each at most once and up to the first
that does not succeed. The relation is compiled exactly if all of them succeed; if not, it ends as
the last one called, whose error is attributed to the relation and to the hook of that callback. -/
theorem Node.compile_callback_protocol (config : Config) (node : Node κ) (parent : Option String)
    (context : κ) (batch : Option (List Value)) :
    let site : Site κ := { dialect := config.dialect, node, context }
    let run := node.compile config parent context batch
    (∀ fault, node.strategy parent.isSome = .error fault →
      run = ⟨[], .failed (.config fault node.aliasName)⟩) ∧
    ∀ strategy, node.strategy parent.isSome = .ok strategy →
      (∃ link, strategy.link node parent = .ok link) ∧
      (∀ error, node.paging config = .error error → run = ⟨[], .failed error⟩) ∧
      ∀ paging, node.paging config = .ok paging →
        (∀ fault, strategy.batchFault? batch = some fault →
          run = ⟨[], .failed (.config fault node.aliasName)⟩) ∧
        (strategy.batchFault? batch = none →
          (site.callbacks parent strategy).map (·.call.site) =
            strategy.callSites.filter node.hasFilterAt ∧
          run.GoesThrough node.aliasName (site.callbacks parent strategy) ∧
          (run.calls.map (·.site)).Nodup ∧
          ((∃ compiled, run.outcome = .ok compiled) ↔
            ∀ callback ∈ site.callbacks parent strategy, callback.outcome = .ok ())) := by
  intro site run
  refine ⟨?_, ?_⟩
  · intro fault unfit
    apply compile_of_refused
    rw [strategy_eq] at unfit
    cases chosen : node.link parent with
    | ok link =>
        rw [chosen] at unfit
        cases unfit
    | error cause =>
        rw [chosen] at unfit
        cases unfit
        rw [plan, chosen]
        rfl
  · intro strategy fit
    obtain ⟨link, parts, chosen, rfl⟩ := link_of_strategy fit
    refine ⟨⟨link, parts⟩, ?_, ?_⟩
    · intro error unpaged
      apply compile_of_refused
      rw [plan, chosen, unpaged]
      rfl
    · intro paging paged
      refine ⟨?_, ?_⟩
      · intro fault unbatched
        apply compile_of_refused
        rw [plan_of_link chosen paged, Link.scope_of_refused unbatched]
        rfl
      · intro batched
        obtain ⟨scope, given⟩ := Link.exists_scope batched
        have settled : node.plan config parent batch = .ok { link, paging, scope } := by
          rw [plan_of_link chosen paged, given]
          rfl
        have sites := Site.map_site_callbacks site (link_offered chosen given)
        have goes : run.GoesThrough node.aliasName (site.callbacks parent link.strategy) :=
          compile_goesThrough settled
        refine ⟨sites, goes, ?_, goes.succeeds_iff⟩
        have called := goes.calls_prefix.map (·.site)
        rw [List.map_map] at called
        have once : ((site.callbacks parent link.strategy).map (·.call.site)).Nodup := by
          rw [sites]
          exact link.strategy.nodup_callSites.filter _
        exact called.sublist.nodup once

/-- The tags of posts through a junction, whose filter fails. -/
def tagsOfPosts : Node Unit where
  table := "tags"
  aliasName := "t"
  filter := some fun scope => .ok (some (scope.table ++ ".visible"))
  junction := some {
    table := "post_tags"
    aliasName := "pt"
    filter := some fun _ => .failed (.custom "no rights")
    joins := [fun scope => .ok (scope.parent ++ ".id = " ++ scope.child ++ ".post_id"),
      fun scope => .ok (scope.parent ++ ".tag_id = " ++ scope.child ++ ".id")] }

/-- The tags of a post are joined through the junction, by four callbacks of which the second one is
the last to be called. Its error comes out as that of the junction's filter. -/
theorem compile_callback_protocol_tagsOfPosts :
    let site : Site Unit := { dialect := .postgres, node := tagsOfPosts, context := () }
    let callbacks := site.callbacks (some "p") .joinedManyToMany
    let run := tagsOfPosts.compile {} (some "p") () none
    tagsOfPosts.strategy true = .ok .joinedManyToMany ∧
      tagsOfPosts.paging {} = .ok .unpaginated ∧
      callbacks.map (·.call.site) =
        [.junctionJoin 0, .junctionFilter, .filter, .junctionJoin 1] ∧
      callbacks.map (·.hook) =
        [.junctionJoin, .junctionFilter, .filter, .junctionJoin] ∧
      run.GoesThrough "t" callbacks ∧
      run.calls.map (·.site) = [.junctionJoin 0, .junctionFilter] ∧
      run.outcome = .failed (.callback "t" .junctionFilter (.custom "no rights")) := by
  intro site callbacks run
  obtain ⟨-, fits⟩ := Node.compile_callback_protocol {} tagsOfPosts (some "p") () none
  obtain ⟨-, -, pages⟩ := fits .joinedManyToMany rfl
  obtain ⟨-, batches⟩ := pages .unpaginated rfl
  obtain ⟨sites, goes, -, -⟩ := batches rfl
  exact ⟨rfl, rfl, sites, rfl, goes, rfl, rfl⟩

end PagedJoins
