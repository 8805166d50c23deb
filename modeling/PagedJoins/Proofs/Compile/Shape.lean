import PagedJoins.Proofs.Compile.Answers
import PagedJoins.Proofs.Compile.Selection

/-!
# The fragments of a relation

Which fragments a relation is compiled into depends on its link and on whether it is paged,
and on nothing else. What a fragment begins with depends on its kind: a first table, or the
table of a batch, opens a clause, and any other one is joined to what stands before it. So
only a relation that is the root, or that has a batch, opens a clause, and it does so once.
-/

namespace PagedJoins

variable {κ : Type}

/-! ## The text of a fragment -/

/-- Does a text begin with another one? -/
def BeginsWith (opening text : String) : Prop :=
  ∃ rest, text = opening ++ rest

theorem BeginsWith.append {opening text : String} (begins : BeginsWith opening text)
    (behind : String) : BeginsWith opening (text ++ behind) := by
  obtain ⟨rest, rfl⟩ := begins
  exact ⟨rest ++ behind, String.append_assoc ..⟩

/-- Does a fragment of this kind open a clause? -/
def FragmentKind.opens : FragmentKind → Bool
  | derived | values => true
  | lateral | join => false

/-- The words that join a table to what stands before it. -/
def joinWords : List String :=
  ["LEFT JOIN", "INNER JOIN", "CROSS APPLY"]

theorem JoinKind.keywords_mem (kind : JoinKind) : kind.keywords ∈ joinWords := by
  cases kind <;> simp [keywords, joinWords]

theorem PagedSelect.attached_begins (dialect : Dialect) (kind : JoinKind) (on : String)
    (select : PagedSelect) :
    ∃ words ∈ joinWords, BeginsWith words (select.attached dialect kind on) := by
  rw [attached, Dialect.attach]
  cases dialect.lateralStyle with
  | joinLateral =>
      refine ⟨_, kind.keywords_mem, ?_⟩
      exact (((BeginsWith.append ⟨" LATERAL ", rfl⟩ _).append _).append _)
  | crossApply => exact ⟨"CROSS APPLY", by simp [joinWords], .append ⟨" ", rfl⟩ _⟩
  | derivedJoin =>
      refine ⟨_, kind.keywords_mem, ?_⟩
      exact (((BeginsWith.append ⟨" ", rfl⟩ _).append _).append _)

theorem Dialect.valuesTable_begins (dialect : Dialect) (column : String) (values : List Value) :
    BeginsWith "FROM " (dialect.valuesTable column values) := by
  rw [valuesTable]
  cases dialect.rowsStyle with
  | values opening =>
      exact (((((BeginsWith.append ⟨"(VALUES ", rfl⟩ _).append _).append _).append _).append _)
        |>.append _
  | union source => exact ((BeginsWith.append ⟨"(", rfl⟩ _).append _).append _

theorem Fragment.render_of_opens (dialect : Dialect) {fragment : Fragment}
    (opens : fragment.kind.opens = true) : BeginsWith "FROM " (fragment.render dialect) := by
  cases fragment with
  | firstPage select => exact ⟨_, rfl⟩
  | firstTable source aliasName filter => exact ⟨_, rfl⟩
  | page kind select on => cases opens
  | batch column keys => exact dialect.valuesTable_begins column keys
  | table join => cases opens

theorem Fragment.render_of_not_opens (dialect : Dialect) {fragment : Fragment}
    (joins : fragment.kind.opens = false) :
    ∃ words ∈ joinWords, BeginsWith words (fragment.render dialect) := by
  cases fragment with
  | firstPage select => cases joins
  | firstTable source aliasName filter => cases joins
  | page kind select on => exact select.attached_begins dialect kind on
  | batch column keys => cases joins
  | table join =>
      refine ⟨_, join.kind.keywords_mem, ?_⟩
      exact (((BeginsWith.append ⟨" ", rfl⟩ _).append _).append _)

theorem not_begins_of_joinWords {words text : String} (member : words ∈ joinWords)
    (begins : BeginsWith words text) : ¬ BeginsWith "FROM " text := by
  obtain ⟨behind, rfl⟩ := begins
  rintro ⟨rest, equal⟩
  have letters := congrArg (fun text => text.toList.head?) equal
  simp only [joinWords, List.mem_cons, List.not_mem_nil, or_false] at member
  obtain rfl | rfl | rfl := member <;> simp at letters

/-! ## Kinds and aliases -/

/-- The kind of the fragment of a table: a page of it is attached, the whole of it is joined. -/
def Paging.tableKind : Paging → FragmentKind
  | keyset _ | offset _ => .lateral
  | unpaginated => .join

/-- What a fragment brings in: a table of some kind, under an alias. -/
def Fragment.brings (fragment : Fragment) : FragmentKind × String :=
  (fragment.kind, fragment.aliasName)

/-- The tables that a link brings in. -/
def Link.tables (node : Node κ) (paging : Paging) : Link κ → List (FragmentKind × String)
  | root => [(.derived, node.aliasName)]
  | joined .. => [(paging.tableKind, node.aliasName)]
  | joinedThrough _ junction .. =>
    [(paging.tableKind, junction.aliasName), (.join, node.aliasName)]
  | batched _ => [(.values, "temp"), (paging.tableKind, node.aliasName)]
  | batchedThrough junction _ =>
    [(.values, "temp"), (paging.tableKind, junction.aliasName), (.join, node.aliasName)]

theorem Paging.opens_tableKind (paging : Paging) : paging.tableKind.opens = false := by
  cases paging <;> rfl

/-- A link without a parent has one table that opens a clause, the first. -/
theorem Link.tables_of_root {node : Node κ} {batch : Option (List Value)} {scope : List Value}
    {link : Link κ} (offered : link.Offered node none batch scope) (paging : Paging) :
    ∃ table tables, link.tables node paging = table :: tables ∧ table.1.opens = true ∧
      ∀ other ∈ tables, other.1.opens = false := by
  have unopened := paging.opens_tableKind
  cases link with
  | root => exact ⟨_, _, rfl, rfl, by simp⟩
  | joined parent on =>
      obtain ⟨-, -, under⟩ := offered
      cases under
  | joinedThrough parent junction toJunction toNode =>
      obtain ⟨-, under, -⟩ := offered
      cases under
  | batched keys => exact ⟨_, _, rfl, rfl, by simpa using unopened⟩
  | batchedThrough junction batch =>
      exact ⟨_, _, rfl, rfl, by simpa [FragmentKind.opens] using unopened⟩

theorem Link.tables_of_joined {node : Node κ} {parent : String} {batch : Option (List Value)}
    {scope : List Value} {link : Link κ} (offered : link.Offered node (some parent) batch scope)
    (unbatched : link.strategy.isBatched = false) (paging : Paging) :
    ∀ table ∈ link.tables node paging, table.1.opens = false := by
  have unopened := paging.opens_tableKind
  cases link with
  | root =>
      obtain ⟨-, -, -, under⟩ := offered
      cases under
  | joined parent on => simpa [tables] using unopened
  | joinedThrough parent junction toJunction toNode =>
      simpa [tables, FragmentKind.opens] using unopened
  | batched keys => cases unbatched
  | batchedThrough junction batch => cases unbatched

/-- The aliases of the tables of a relation: that of its junction, if it has one, and its own. -/
def Node.aliases (node : Node κ) : List String :=
  (node.junction.map (·.aliasName)).toList ++ [node.aliasName]

/-- The aliases of the fragments of a relation: the table of a batch comes before its own. -/
def Node.fragmentAliases (node : Node κ) : List String :=
  (if node.isBatched then ["temp"] else []) ++ node.aliases

/-- The tables of a link are that of the batch, if it needs one, and those of the relation. -/
theorem Link.aliases_tables {node : Node κ} {parent : Option String} {batch : Option (List Value)}
    {scope : List Value} {link : Link κ} (offered : link.Offered node parent batch scope)
    (paging : Paging) :
    (link.tables node paging).map (·.2) =
      (if link.strategy.isBatched then ["temp"] else []) ++ node.aliases := by
  cases link with
  | root | joined | batched =>
      obtain ⟨alone, -⟩ := offered
      rw [Node.aliases, alone]
      rfl
  | joinedThrough | batchedThrough =>
      obtain ⟨through, -⟩ := offered
      rw [Node.aliases, through]
      rfl

theorem brings_rootFragment (relation : Relation) (paging : Paging) (filter : Option String) :
    (rootFragment relation paging filter).brings = (.derived, relation.aliasName) := by
  cases paging <;> rfl

theorem brings_directFragment (relation : Relation) (paging : Paging) (kind : JoinKind) (tie : Tie)
    (filter : Option String) :
    (directFragment relation paging kind tie filter).brings =
      (paging.tableKind, relation.aliasName) := by
  cases paging <;> rfl

theorem brings_junctionFragments (node : Node κ) (junction : Junction κ) (paging : Paging)
    (tie : Tie) (answers : JunctionAnswers) :
    (junctionFragments node junction paging tie answers).map (·.brings) =
      [(paging.tableKind, junction.aliasName), (.join, node.aliasName)] := by
  cases paging <;> rfl

/-- The tables of the fragments of a link are those of the link. -/
theorem Site.tables_of_fragments {site : Site κ} {paging : Paging} {scope : List Value}
    {link : Link κ} {fragments : List Fragment}
    (succeeds : (site.fragments paging scope link).outcome = .ok fragments) :
    fragments.map (·.brings) = link.tables site.node paging := by
  cases builds_of_fragments succeeds with
  | root =>
      rw [List.map_singleton, brings_rootFragment]
      rfl
  | joined =>
      rw [List.map_singleton, brings_directFragment]
      rfl
  | joinedThrough => exact brings_junctionFragments ..
  | batched =>
      rw [List.map_cons, List.map_singleton, brings_directFragment]
      rfl
  | batchedThrough =>
      rw [List.map_cons, brings_junctionFragments]
      rfl

/-! ## Relations -/

section Node

variable {config : Config} {node : Node κ} {parent : Option String} {context : κ}
variable {batch : Option (List Value)} {compiled : Compiled}

theorem Node.link_of_plan {plan : Plan κ} (settled : node.plan config parent batch = .ok plan) :
    node.link parent = .ok plan.link := by
  obtain ⟨link, chosen, rest⟩ := exists_of_bind_eq_ok settled
  obtain ⟨paging, -, rest⟩ := exists_of_bind_eq_ok rest
  obtain ⟨scope, -, result⟩ := exists_of_bind_eq_ok rest
  cases result
  exact eq_ok_of_mapError_eq_ok chosen

theorem Node.isBatched_of_link {link : Link κ} (chosen : node.link parent = .ok link) :
    link.strategy.isBatched = node.isBatched := by
  have fits : node.strategy parent.isSome = .ok link.strategy := by
    rw [Node.strategy_eq, chosen]
    rfl
  exact Node.isBatched_of_strategy fits

/-- The aliases of the fragments of a relation. -/
theorem Node.compile_aliases
    (succeeds : (node.compile config parent context batch).outcome = .ok compiled) :
    compiled.fragments.map (·.aliasName) = node.fragmentAliases := by
  obtain ⟨plan, settled, answered⟩ := Node.compile_eq_ok succeeds
  have aliases := congrArg (List.map (·.2)) (Site.tables_of_fragments answered)
  rw [List.map_map, Link.aliases_tables (Node.plan_eq_ok settled).1,
    Node.isBatched_of_link (Node.link_of_plan settled)] at aliases
  exact aliases

/-- The first fragment of a root opens a clause, and the others are joined to it. -/
theorem Node.compile_root
    (succeeds : (node.compile config none context batch).outcome = .ok compiled) :
    ∃ first others, compiled.fragments = first :: others ∧ first.kind.opens = true ∧
      ∀ other ∈ others, other.kind.opens = false := by
  obtain ⟨plan, settled, answered⟩ := Node.compile_eq_ok succeeds
  have tables := Site.tables_of_fragments answered
  obtain ⟨table, others, shape, opens, joins⟩ :=
    Link.tables_of_root (Node.plan_eq_ok settled).1 plan.paging
  rw [shape] at tables
  obtain ⟨first, rest, parts, rfl, rfl⟩ := List.map_eq_cons_iff.mp tables
  exact ⟨first, rest, parts, opens, fun other member => joins _ (List.mem_map_of_mem member)⟩

theorem Node.compile_below {parent : String} (unbatched : node.isBatched = false)
    (succeeds : (node.compile config (some parent) context batch).outcome = .ok compiled) :
    ∀ fragment ∈ compiled.fragments, fragment.kind.opens = false := by
  obtain ⟨plan, settled, answered⟩ := Node.compile_eq_ok succeeds
  have unbatched' : plan.link.strategy.isBatched = false :=
    (Node.isBatched_of_link (Node.link_of_plan settled)).trans unbatched
  intro fragment member
  apply Link.tables_of_joined (Node.plan_eq_ok settled).1 unbatched' plan.paging fragment.brings
  rw [← Site.tables_of_fragments answered]
  exact List.mem_map_of_mem member

end Node

end PagedJoins
