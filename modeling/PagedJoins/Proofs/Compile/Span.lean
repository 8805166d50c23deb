import PagedJoins.Proofs.Compile.Blank
import PagedJoins.Proofs.Page.Decoded
import PagedJoins.Proofs.Sql.Composed

/-!
# Who writes a fragment

The text of a fragment does not tell who has written a part of it: a name may be any text, even
that of the column that counts all rows. Therefore a fragment is taken apart into spans, each of
which has one author. Only the select of a page has a span that counts. Everywhere else there are
names that the relation has, keys of the batch, words that could not be mistaken for the name of the
count, and conditions, which are put together of the same, of the values of a cursor, and of what
the callbacks have said.
-/

namespace PagedJoins

/-! ## Spans -/

/-- A span of a statement, by who has written it. -/
inductive Span where
  /-- Words that are the same for all names and values. -/
  | word (s : String)
  /-- A name, as an identifier. -/
  | name (s : String)
  /-- A table, written as it is. -/
  | table (s : String)
  | literal (value : Value)
  /-- A condition on rows. -/
  | condition (s : String)
  /-- The column that counts all rows, under its name. -/
  | total
  /-- The line of a window, if there is one. -/
  | window (limit : Limit) (offset : Option UInt64)
  deriving DecidableEq, Repr

/-- The window on a line of its own, if the dialect needs one. -/
def Dialect.windowLine (dialect : Dialect) (limit : Limit) (offset : Option UInt64) : String :=
  if dialect.windowClause limit offset = "" then "" else "\n" ++ dialect.windowClause limit offset

namespace Span

variable (dialect : Dialect)

/-- A span as it stands in a statement. -/
def render : Span → String
  | word s | table s | condition s => s
  | name s => dialect.quote s
  | literal value => dialect.literal value
  | total => dialect.countColumn
  | window limit offset => dialect.windowLine limit offset

/-- The text of some spans. -/
def text (spans : List Span) : String :=
  String.join (spans.map (render dialect))

@[simp] theorem text_nil : text dialect [] = "" :=
  rfl

@[simp] theorem text_cons (span : Span) (spans : List Span) :
    text dialect (span :: spans) = span.render dialect ++ text dialect spans := by
  simp [text]

@[simp] theorem text_append (front back : List Span) :
    text dialect (front ++ back) = text dialect front ++ text dialect back := by
  simp [text]

theorem text_intercalate (separator : List Span) (parts : List (List Span)) :
    text dialect (separator.intercalate parts) =
      (text dialect separator).intercalate (parts.map (text dialect)) := by
  induction parts with
  | nil => rfl
  | cons part parts ih =>
      cases parts with
      | nil => simp
      | cons next parts =>
          rw [List.intercalate_cons_cons]
          simp [ih, String.append_assoc]

end Span

/-- The spans of a table under an alias. -/
def Dialect.aliasSpans (dialect : Dialect) (table aliasName : String) : List Span :=
  match dialect.aliasKeyword with
  | some keyword => [.table table, .word " ", .word keyword, .word " ", .name aliasName]
  | none => [.table table, .word " ", .name aliasName]

/-- The spans of a join. -/
def Join.spans (dialect : Dialect) (join : Join) : List Span :=
  .word join.kind.keywords :: .word " " :: dialect.aliasSpans join.table join.aliasName ++
    [.word " ON ", .condition join.on]

/-- The spans of an order. -/
def Order.spans (order : Order) : List Span :=
  List.intercalate [.word ", "] (order.columns.map fun sort =>
    [.name order.table, .word ".", .name sort.column, .word " ", .word sort.direction.keyword])

/-- The spans of what a select lists: all columns of its table, and perhaps a further one. -/
def listSpans (aliasName : String) (further : List Span) : List Span :=
  .word "SELECT " :: .name aliasName :: .word ".*" :: further ++ [.word "\n"]

/-- The spans of a table that is selected from, and the condition on its rows. -/
def Dialect.rowSpans (dialect : Dialect) (table aliasName : String) (inner : List Join)
    (filter : String) : List Span :=
  .word "FROM " :: dialect.aliasSpans table aliasName ++
    inner.flatMap (fun join => .word "\n" :: join.spans dialect) ++
    [.word "\n", .word "WHERE ", .condition filter]

namespace PagedSelect

/-- The spans of a page behind what it lists, up to its window. -/
def rowSpans (dialect : Dialect) (isAttached : Bool) (select : PagedSelect) : List Span :=
  dialect.rowSpans select.table select.aliasName
      (select.inner.map fun join => ⟨.left, join.table, join.aliasName, join.on⟩).toList
      (select.filter dialect isAttached) ++
    .word "\n" :: .word "ORDER BY " :: select.order.spans

/-- The spans of a page. -/
def spans (dialect : Dialect) (isAttached : Bool) (select : PagedSelect) : List Span :=
  listSpans select.aliasName [.total] ++ select.rowSpans dialect isAttached ++
    [.window select.limit select.offset]

end PagedSelect

/-- The spans of a derived table. -/
def derivedSpans (body : List Span) (aliasName : String) : List Span :=
  .word "(\n" :: body ++ [.word "\n) ", .name aliasName]

namespace Dialect

variable (dialect : Dialect)

/-- The spans of a row of a union. -/
def unionRowSpans (source column : String) (value : Value) (isFirst : Bool) : List Span :=
  if isFirst then
    match dialect.aliasKeyword with
    | some keyword =>
      [.word "SELECT ", .literal value, .word " ", .word keyword, .word " ", .name column,
        .word source]
    | none => [.word "SELECT ", .literal value, .word " ", .name column, .word source]
  else
    [.word "SELECT ", .literal value, .word source]

/-- The spans of the rows of a union, the first of which names the column. -/
def unionSpans (source column : String) : List Value → List (List Span)
  | [] => []
  | first :: others =>
    dialect.unionRowSpans source column first true ::
      others.map fun key => dialect.unionRowSpans source column key false

/-- The spans of the table of a batch. -/
def valuesSpans (column : String) (keys : List Value) : List Span :=
  match dialect.rowsStyle with
  | .values opening =>
    .word "FROM (VALUES " ::
      List.intercalate [.word ","]
        (keys.map fun key => [.word opening, .literal key, .word ")"]) ++
      [.word ") temp(", .name column, .word ")"]
  | .union source =>
    .word "FROM (" ::
      List.intercalate [.word " UNION ALL "] (dialect.unionSpans source column keys) ++
      [.word ") temp"]

end Dialect

/-- The spans of a fragment. -/
def Fragment.spans (dialect : Dialect) : Fragment → List Span
  | firstPage select =>
    .word "FROM " :: derivedSpans (select.spans dialect false) select.aliasName
  | firstTable source aliasName filter =>
    .word "FROM " :: derivedSpans
      (listSpans aliasName [] ++ dialect.rowSpans source aliasName [] filter) aliasName
  | page kind select on =>
    .word (dialect.attachment kind) ::
      derivedSpans (select.spans dialect true) select.aliasName ++
      if dialect.lateralStyle = .crossApply then [] else [.word " ON ", .condition on]
  | batch column keys => dialect.valuesSpans column keys
  | table join => join.spans dialect

/-! ## The text of the spans -/

namespace Span

variable {dialect : Dialect}

@[simp] theorem text_aliasSpans (table aliasName : String) :
    text dialect (dialect.aliasSpans table aliasName) = dialect.aliasTable table aliasName := by
  rw [Dialect.aliasSpans, Dialect.aliasTable]
  cases dialect.aliasKeyword <;> simp [render, String.append_assoc]

@[simp] theorem text_joinSpans (join : Join) :
    text dialect (join.spans dialect) = join.render dialect := by
  simp [Join.spans, Join.render, render, String.append_assoc]

@[simp] theorem text_orderSpans (order : Order) :
    text dialect order.spans = order.render dialect := by
  rw [Order.spans, text_intercalate, List.map_map, Order.render, text_cons, text_nil,
    String.append_empty]
  rfl

@[simp] theorem text_selectSpans (isAttached : Bool) (select : PagedSelect) :
    text dialect (select.spans dialect isAttached) =
      select.body dialect (select.filter dialect isAttached) := by
  rw [← joinPieces_select]
  unfold PagedSelect.spans PagedSelect.rowSpans PagedSelect.pieces Dialect.rowSpans listSpans
  have count : dialect.countColumn = ", COUNT(*) OVER () AS " ++ dialect.quote "$total" := rfl
  cases select.inner <;>
    simp [Dialect.selectLines, count, Dialect.windowLine, Span.render, Piece.render,
      Clause.keyword, String.append_assoc]

@[simp] theorem text_derivedSpans (body : List Span) (aliasName : String) :
    text dialect (derivedSpans body aliasName) =
      dialect.derivedTable (text dialect body) aliasName := by
  simp [derivedSpans, Dialect.derivedTable, render, String.append_assoc]

theorem text_unionRowSpans (source column : String) (value : Value) (isFirst : Bool) :
    text dialect (dialect.unionRowSpans source column value isFirst) =
      dialect.unionRow source (dialect.quote column) (dialect.literal value) isFirst := by
  rw [Dialect.unionRowSpans, Dialect.unionRow]
  cases isFirst <;> cases dialect.aliasKeyword <;> simp [render, String.append_assoc]

theorem text_valuesSpans (column : String) (keys : List Value) :
    text dialect (dialect.valuesSpans column keys) = dialect.valuesTable column keys := by
  rw [Dialect.valuesSpans, Dialect.valuesTable]
  cases dialect.rowsStyle with
  | values opening =>
      simp [text_intercalate, render, Function.comp_def, batchAlias, String.append_assoc]
  | union source =>
      cases keys with
      | nil =>
          simp only [Dialect.unionSpans, text_cons, text_append, text_nil, render,
            String.append_empty, List.intercalate_nil, List.map_nil, String.intercalate_nil]
          rfl
      | cons first others =>
          simp [Dialect.unionSpans, text_intercalate, text_unionRowSpans, render,
            Function.comp_def, batchAlias, String.append_assoc]

/-- The spans of a fragment make up its text. -/
theorem text_fragmentSpans (fragment : Fragment) :
    text dialect (fragment.spans dialect) = fragment.render dialect := by
  cases fragment with
  | firstPage select =>
      simp [Fragment.spans, Fragment.render, PagedSelect.standalone, render]
  | firstTable source aliasName filter =>
      have listed : ∀ rest, ".*\n" ++ rest = ".*" ++ ("\n" ++ rest) := by
        intro rest
        rw [← String.append_assoc]
        rfl
      simp [Fragment.spans, Fragment.render, Dialect.plainTable, listSpans, Dialect.rowSpans,
        Dialect.selectLines, render, String.append_assoc, listed]
  | page kind select on =>
      rw [Fragment.render, PagedSelect.attached, Dialect.attach_eq, Dialect.trailingOn,
        Fragment.spans]
      split <;> simp [render, String.append_assoc]
  | batch column keys => exact text_valuesSpans column keys
  | table join => exact text_joinSpans join

end Span

/-! ## What could be a count -/

/-- Is this neither the count nor a window, nor words that could be mistaken for the name of the
count? Names and values are to be known, and a condition is to be composed of the like and of what
was said. -/
def Span.Plain (dialect : Dialect) (sources : Sources) : Span → Prop
  | word s => '$' ∉ s.toList
  | name s | table s => sources.name s
  | literal value => sources.value value
  | condition s => dialect.Composes sources s
  | total | window .. => False

/-- Are all of these spans plain? -/
def Span.AllPlain (dialect : Dialect) (sources : Sources) (spans : List Span) : Prop :=
  ∀ span ∈ spans, span.Plain dialect sources

/-- Is the table of a join known, and its condition composed? -/
structure Join.Composed (dialect : Dialect) (sources : Sources) (join : Join) : Prop where
  known : sources.KnowsTable join.table join.aliasName
  on : dialect.Composes sources join.on

namespace Span

variable {dialect : Dialect} {sources : Sources}

@[simp] theorem allPlain_nil : AllPlain dialect sources [] :=
  List.forall_mem_nil _

@[simp] theorem allPlain_cons (span : Span) (spans : List Span) :
    AllPlain dialect sources (span :: spans) ↔
      span.Plain dialect sources ∧ AllPlain dialect sources spans :=
  List.forall_mem_cons

@[simp] theorem allPlain_append (front back : List Span) :
    AllPlain dialect sources (front ++ back) ↔
      AllPlain dialect sources front ∧ AllPlain dialect sources back :=
  List.forall_mem_append

theorem AllPlain.intercalate {separator : List Span} {parts : List (List Span)}
    (between : AllPlain dialect sources separator)
    (each : ∀ part ∈ parts, AllPlain dialect sources part) :
    AllPlain dialect sources (separator.intercalate parts) := by
  induction parts with
  | nil => exact allPlain_nil
  | cons part parts ih =>
      obtain ⟨first, others⟩ := List.forall_mem_cons.mp each
      cases parts with
      | nil => simpa using first
      | cons next parts =>
          rw [List.intercalate_cons_cons]
          simp [first, between, ih others]

theorem allPlain_aliasSpans {table aliasName : String}
    (known : sources.KnowsTable table aliasName) :
    AllPlain dialect sources (dialect.aliasSpans table aliasName) := by
  obtain ⟨named, aliased⟩ := known
  cases dialect <;> simp [Dialect.aliasSpans, Dialect.aliasKeyword, Plain, named, aliased]

theorem allPlain_joinSpans {join : Join} (composed : join.Composed dialect sources) :
    AllPlain dialect sources (join.spans dialect) := by
  obtain ⟨known, on⟩ := composed
  have keywords : '$' ∉ join.kind.keywords.toList := by
    cases join.kind <;> decide
  simp [Join.spans, Plain, keywords, allPlain_aliasSpans known, on]

theorem allPlain_orderSpans {order : Order} (known : order.Known sources) :
    AllPlain dialect sources order.spans := by
  apply AllPlain.intercalate
  · simp [Plain]
  · intro part member
    obtain ⟨sort, listed, rfl⟩ := List.mem_map.mp member
    have keyword : '$' ∉ sort.direction.keyword.toList := by
      cases sort.direction <;> decide
    simp [Plain, keyword, known.table, known.columns sort listed]

theorem allPlain_rowSpans {table aliasName : String} {inner : List Join} {filter : String}
    (known : sources.KnowsTable table aliasName)
    (joined : ∀ join ∈ inner, join.Composed dialect sources)
    (filtered : dialect.Composes sources filter) :
    AllPlain dialect sources (dialect.rowSpans table aliasName inner filter) := by
  have joins : AllPlain dialect sources
      (inner.flatMap fun join => .word "\n" :: join.spans dialect) := by
    intro span member
    obtain ⟨join, listed, member⟩ := List.mem_flatMap.mp member
    have plain : AllPlain dialect sources (.word "\n" :: join.spans dialect) := by
      simp [Plain, allPlain_joinSpans (joined join listed)]
    exact plain span member
  simp [Dialect.rowSpans, Plain, allPlain_aliasSpans known, joins, filtered]

theorem allPlain_unionRowSpans {source column : String} {value : Value}
    (plain : '$' ∉ source.toList) (named : sources.name column) (known : sources.value value)
    (isFirst : Bool) :
    AllPlain dialect sources (dialect.unionRowSpans source column value isFirst) := by
  cases isFirst <;> cases dialect <;>
    simp [Dialect.unionRowSpans, Dialect.aliasKeyword, Plain, plain, named, known]

theorem allPlain_valuesSpans {column : String} {keys : List Value} (named : sources.name column)
    (known : ∀ key ∈ keys, sources.value key) :
    AllPlain dialect sources (dialect.valuesSpans column keys) := by
  rw [Dialect.valuesSpans]
  cases style : dialect.rowsStyle with
  | values opening =>
      have plain : '$' ∉ opening.toList := by
        cases dialect <;> cases style <;> decide
      have rows : AllPlain dialect sources (List.intercalate [.word ","]
          (keys.map fun key => [.word opening, .literal key, .word ")"])) := by
        apply AllPlain.intercalate
        · simp [Plain]
        · intro part member
          obtain ⟨key, listed, rfl⟩ := List.mem_map.mp member
          simp [Plain, plain, known key listed]
      simp [Plain, rows, named]
  | union source =>
      have plain : '$' ∉ source.toList := by
        cases dialect <;> cases style <;> decide
      have rows : AllPlain dialect sources (List.intercalate [.word " UNION ALL "]
          (dialect.unionSpans source column keys)) := by
        apply AllPlain.intercalate
        · simp [Plain]
        · cases keys with
          | nil => exact List.forall_mem_nil _
          | cons first others =>
              obtain ⟨here, later⟩ := List.forall_mem_cons.mp known
              rw [Dialect.unionSpans, List.forall_mem_cons, List.forall_mem_map]
              constructor
              · exact allPlain_unionRowSpans plain named here true
              · intro key listed
                exact allPlain_unionRowSpans plain named (later key listed) false
      simp [Plain, rows]

theorem plain_attachment (kind : JoinKind) : '$' ∉ (dialect.attachment kind).toList := by
  cases dialect <;> cases kind <;> decide

end Span

/-! ## Conditions of fragments -/

section Composed

variable {dialect : Dialect} {sources : Sources}

/-- Are the names and the values of a page known? -/
structure Paging.Known (sources : Sources) (paging : Paging) : Prop where
  order : ∀ order, paging.order? = some order → order.Known sources
  seek : ∀ seek, paging.seek? = some seek → seek.Known sources

/-- Are the names and the values of a select known, and its conditions composed? -/
structure PagedSelect.Composed (dialect : Dialect) (sources : Sources) (select : PagedSelect) :
    Prop where
  known : sources.KnowsTable select.table select.aliasName
  conditions : select.conditions.All (dialect.Composes sources)
  inner : ∀ join, select.inner = some join →
    Join.Composed dialect sources ⟨.left, join.table, join.aliasName, join.on⟩
  order : select.order.Known sources
  seek : ∀ seek, select.seek = some seek → seek.Known sources

/-- Are the names and the values of a fragment known, and its conditions composed? -/
def Fragment.Composed (dialect : Dialect) (sources : Sources) : Fragment → Prop
  | firstPage select => select.Composed dialect sources
  | firstTable source aliasName filter =>
    sources.KnowsTable source aliasName ∧ dialect.Composes sources filter
  | page _ select on => select.Composed dialect sources ∧ dialect.Composes sources on
  | batch column keys => sources.name column ∧ ∀ key ∈ keys, sources.value key
  | table join => join.Composed dialect sources

/-- The rows of a page are selected without a count. -/
theorem PagedSelect.Composed.allPlain {select : PagedSelect}
    (composed : select.Composed dialect sources) (isAttached : Bool) :
    Span.AllPlain dialect sources (select.rowSpans dialect isAttached) := by
  obtain ⟨known, conditions, inner, order, seek⟩ := composed
  have rows : Span.AllPlain dialect sources (dialect.rowSpans select.table select.aliasName
      (select.inner.map fun join => ⟨.left, join.table, join.aliasName, join.on⟩).toList
      (select.filter dialect isAttached)) := by
    apply Span.allPlain_rowSpans known
    · intro join member
      obtain ⟨inside, joined, rfl⟩ := Option.map_eq_some_iff.mp (Option.mem_toList.mp member)
      exact inner inside joined
    · exact .filter conditions seek isAttached
  simp [PagedSelect.rowSpans, rows, Span.Plain, Span.allPlain_orderSpans order]

/-- A fragment without a page has no count and no window. -/
theorem Fragment.Composed.allPlain {fragment : Fragment}
    (composed : fragment.Composed dialect sources) (whole : fragment.select? = none) :
    Span.AllPlain dialect sources (fragment.spans dialect) := by
  cases fragment with
  | firstPage | page => cases whole
  | firstTable source aliasName filter =>
      obtain ⟨known, filtered⟩ := composed
      have rows : Span.AllPlain dialect sources (dialect.rowSpans source aliasName [] filter) :=
        Span.allPlain_rowSpans known (List.forall_mem_nil _) filtered
      simp [Fragment.spans, derivedSpans, listSpans, rows, Span.Plain, known.aliasName]
  | batch column keys => exact Span.allPlain_valuesSpans composed.1 composed.2
  | table join => exact Span.allPlain_joinSpans composed

theorem Tie.all_conditions {good : String → Prop} {tie : Tie} {parts : List (Option String)}
    (key : good tie.key) (scope : ∀ text, tie.scope = some text → good text)
    (each : ∀ text, some text ∈ parts → good text) : (tie.conditions parts).All good := by
  rw [conditions_eq]
  constructor
  case joinKey =>
    intro part tied
    obtain ⟨rfl, -⟩ := condition?_eq_some_iff.mp tied
    exact key
  case scope =>
    intro part bound
    exact scope part (scope_of_condition? bound)
  case predicates =>
    intro part member
    exact each part (mem_of_mem_shown member)

variable {paging : Paging} (paged : paging.Known sources)

include paged

/-- A page is composed if what it is made of is. -/
theorem PagedSelect.composed_of_select? {table aliasName : String} {conditions : Conditions}
    {inner : Option InnerJoin} {select : PagedSelect}
    (selects : paging.select? table aliasName conditions inner = some select)
    (known : sources.KnowsTable table aliasName)
    (all : conditions.All (dialect.Composes sources))
    (joined : ∀ join, inner = some join →
      Join.Composed dialect sources ⟨.left, join.table, join.aliasName, join.on⟩) :
    select.Composed dialect sources := by
  obtain ⟨source, name, same, inside, order, seek⟩ := Paging.select?_eq_some selects
  constructor
  case known => rwa [source, name]
  case conditions => rwa [same]
  case inner => rwa [inside]
  case order => exact paged.order _ order
  case seek => exact fun past found => paged.seek past (seek.trans found)

section Relation

variable {relation : Relation} {filter : Option String}
variable (known : sources.KnowsTable relation.table relation.aliasName)
variable (filtered : ∀ text, filter = some text → dialect.Composes sources text)

include known filtered

theorem composed_rootFragment : (rootFragment relation paging filter).Composed dialect sources := by
  have empty : Conditions.All (dialect.Composes sources) {} := ⟨nofun, nofun, nofun⟩
  have all : (Conditions.push {} filter).All (dialect.Composes sources) := empty.push filtered
  unfold rootFragment
  dsimp only
  split
  · rename_i select selects
    exact PagedSelect.composed_of_select? paged selects known all nofun
  · exact ⟨known, (Dialect.Composes.conditions all).1⟩

theorem composed_directFragment (kind : JoinKind) {tie : Tie}
    (key : dialect.Composes sources tie.key)
    (scope : ∀ text, tie.scope = some text → dialect.Composes sources text) :
    (directFragment relation paging kind tie filter).Composed dialect sources := by
  have all : (tie.conditions [filter]).All (dialect.Composes sources) := by
    apply Tie.all_conditions key scope
    intro text member
    exact filtered text (List.mem_singleton.mp member).symm
  unfold directFragment
  dsimp only
  split
  · rename_i select selects
    exact ⟨PagedSelect.composed_of_select? paged selects known all nofun, key⟩
  · exact ⟨known, (Dialect.Composes.conditions all).1⟩

end Relation

theorem composed_junctionFragments {κ : Type} {node : Node κ} {junction : Junction κ} {tie : Tie}
    {answers : JunctionAnswers} (known : sources.KnowsTable node.table node.aliasName)
    (between : sources.KnowsTable junction.table junction.aliasName)
    (key : dialect.Composes sources tie.key)
    (scope : ∀ text, tie.scope = some text → dialect.Composes sources text)
    (restricted : ∀ text, answers.junctionFilter = some text → dialect.Composes sources text)
    (filtered : ∀ text, answers.nodeFilter = some text → dialect.Composes sources text)
    (joined : dialect.Composes sources answers.onNode) :
    ∀ fragment ∈ junctionFragments node junction paging tie answers,
      fragment.Composed dialect sources := by
  have all : (tie.conditions [answers.junctionFilter, answers.nodeFilter]).All
      (dialect.Composes sources) := by
    apply Tie.all_conditions key scope
    intro text member
    rw [List.mem_pair] at member
    cases member with
    | inl here => exact restricted text here.symm
    | inr there => exact filtered text there.symm
  have onJunction : (tie.conditions [answers.junctionFilter]).All (dialect.Composes sources) := by
    apply Tie.all_conditions key scope
    intro text member
    exact restricted text (List.mem_singleton.mp member).symm
  have onNode : (Tie.conditions ⟨answers.onNode, none⟩ [answers.nodeFilter]).All
      (dialect.Composes sources) := by
    apply Tie.all_conditions joined nofun
    intro text member
    exact filtered text (List.mem_singleton.mp member).symm
  unfold junctionFragments
  dsimp only
  split
  · rename_i select selects
    have composed : select.Composed dialect sources := by
      apply PagedSelect.composed_of_select? paged selects between all
      intro join inside
      rw [Node.innerJoin?_eq] at inside
      split at inside
      · cases inside
        exact ⟨known, joined⟩
      · cases inside
    rw [List.forall_mem_cons, List.forall_mem_singleton]
    exact ⟨⟨composed, key⟩, known, joined⟩
  · rw [List.forall_mem_cons, List.forall_mem_singleton]
    exact ⟨⟨between, (Dialect.Composes.conditions onJunction).1⟩,
      known, (Dialect.Composes.conditions onNode).1⟩

end Composed

/-! ## What a relation hands in -/

variable {κ : Type}

/-- The columns that are sorted by, if any are listed. -/
def sortNames (listed : Option (List SortColumn)) : List String :=
  listed.toList.flatten.map (·.column)

/-- The columns of both keys. -/
def BatchKeys.names (keys : BatchKeys) : List String :=
  [keys.thisKey.name, keys.parentKey.name]

/-- The names in a junction. -/
def Junction.names (junction : Junction κ) : List String :=
  [junction.table, junction.aliasName] ++ sortNames junction.orderBy ++
    sortNames junction.sortKey ++ junction.batch.toList.flatMap (·.keys.names)

/-- The names in a relation and its junction. -/
def Node.names (node : Node κ) : List String :=
  [node.table, node.aliasName] ++ sortNames node.orderBy ++ sortNames node.sortKey ++
    node.batch.toList.flatMap (·.names) ++ node.junction.toList.flatMap (·.names)

/-- Is this a key of the batch that a relation is compiled for, or a value of its cursor? -/
inductive Node.Brings (node : Node κ) (batch : Option (List Value)) : Value → Prop where
  | key {keys : List Value} {value : Value} (given : batch = some keys) (listed : value ∈ keys) :
      Brings node batch value
  | marked {text column : String} {cursor : Cursor} {value : Value}
      (given : node.cursor? = some text) (decoded : Cursor.decode text = .ok cursor)
      (listed : (column, value) ∈ cursor.pairs) : Brings node batch value

/-- Is this the answer of one of the callbacks of a relation? -/
inductive Site.Says (site : Site κ) : String → Prop where
  | filter {aliasName text : String}
      (answered : site.FilterAnswers site.node.filter aliasName (some text)) : Says site text
  | junctionFilter {junction : Junction κ} {aliasName text : String}
      (through : site.node.junction = some junction)
      (answered : site.FilterAnswers junction.filter aliasName (some text)) : Says site text
  | join {on : JoinCondition κ} {parent child text : String} (given : site.node.join = some on)
      (answered : site.JoinAnswers on parent child text) : Says site text
  | junctionJoin {junction : Junction κ} {on : JoinCondition κ} {parent child text : String}
      (through : site.node.junction = some junction) (listed : on ∈ junction.joins)
      (answered : site.JoinAnswers on parent child text) : Says site text
  | batchJoin {junction : Junction κ} {batch : JunctionBatch κ} {parent child text : String}
      (through : site.node.junction = some junction) (keyed : junction.batch = some batch)
      (answered : site.JoinAnswers batch.join parent child text) : Says site text

/-- All that a relation, its batch and its callbacks hand in. -/
def Site.sources (site : Site κ) (batch : Option (List Value)) : Sources where
  name s := s ∈ site.node.names
  value := site.node.Brings batch
  said := site.Says

section Sources

variable {site : Site κ} {batch : Option (List Value)} {junction : Junction κ}

theorem Site.knows_of_junction (through : site.node.junction = some junction) {s : String}
    (listed : s ∈ junction.names) : (site.sources batch).name s := by
  change s ∈ site.node.names
  simp [Node.names, through, listed]

theorem Site.knowsTable (site : Site κ) (batch : Option (List Value)) :
    (site.sources batch).KnowsTable site.node.table site.node.aliasName := by
  constructor <;> simp [sources, Node.names]

theorem Site.knowsTable_of_junction (through : site.node.junction = some junction) :
    (site.sources batch).KnowsTable junction.table junction.aliasName := by
  constructor <;> apply knows_of_junction through <;> simp [Junction.names]

theorem Node.Lists.known {listed : Option (List SortColumn)}
    {listedIn : Junction κ → Option (List SortColumn)} {order : Order}
    (lists : site.node.Lists listed listedIn order)
    (own : ∀ s ∈ sortNames listed, s ∈ site.node.names)
    (ofJunction : ∀ junction : Junction κ, ∀ s ∈ sortNames (listedIn junction),
      s ∈ junction.names) :
    order.Known (site.sources batch) := by
  have among {columns : List SortColumn} {sort : SortColumn} (member : sort ∈ columns) :
      sort.column ∈ sortNames (some columns) := by
    simpa [sortNames] using List.mem_map_of_mem member
  cases lists with
  | own same =>
      constructor
      case table => exact (site.knowsTable batch).aliasName
      case columns => exact fun sort member => own _ (same ▸ among member)
  | @ofJunction junction columns _ through same =>
      constructor
      case table => exact (Site.knowsTable_of_junction through).aliasName
      case columns =>
        intro sort member
        exact Site.knows_of_junction through (ofJunction junction _ (same ▸ among member))

theorem Node.SortedBy.known {order : Order} (sorted : site.node.SortedBy order) :
    order.Known (site.sources batch) := by
  apply Lists.known sorted
  · intro s listed
    simp [names, listed]
  · intro junction s listed
    simp [Junction.names, listed]

theorem Node.OrderedBy.known {order : Order} (ordered : site.node.OrderedBy order) :
    order.Known (site.sources batch) := by
  apply Lists.known ordered
  · intro s listed
    simp [names, listed]
  · intro junction s listed
    simp [Junction.names, listed]

/-- The names and the values of the page of a relation are known. -/
theorem Site.paging_known {config : Config} {paging : Paging}
    (asked : site.node.paging config = .ok paging) : paging.Known (site.sources batch) := by
  obtain ⟨page, read, rfl⟩ | ⟨page, read, rfl⟩ | rfl := Node.paging_eq_ok asked
  · obtain ⟨base, sorted, -, coherent⟩ := Node.coherent_of_keysetPage read
    have known : base.Known (site.sources batch) := sorted.known
    have columns : ∀ sort ∈ page.order.columns, (site.sources batch).name sort.column := by
      intro sort member
      rw [coherent.columns] at member
      obtain ⟨listed, own, rfl⟩ := List.mem_map.mp member
      cases page.backward with
      | false => exact known.columns listed own
      | true => exact known.columns listed own
    have table : (site.sources batch).name page.order.table := by
      rw [coherent.table]
      exact known.table
    constructor
    case order =>
      intro order same
      cases same
      exact ⟨table, columns⟩
    case seek =>
      intro seek past
      obtain ⟨sameTable, sameColumns, -⟩ := coherent.seek seek past
      obtain ⟨text, cursor, given, decoded, among⟩ := Node.seek_from_cursor read past
      rw [← sameTable] at table
      rw [← sameColumns] at columns
      refine ⟨table, columns, ?_⟩
      intro value member
      obtain ⟨column, listed⟩ := among value member
      exact .marked given decoded listed
  · constructor
    case order =>
      intro order same
      cases same
      exact (Node.rowOrder?_eq_some_iff.mp (Node.offsetPage_eq_ok_iff.mp read).1).known
    case seek => exact nofun
  · exact ⟨nofun, nofun⟩

/-- What ties a table to the batch is composed of known names and of the keys. -/
theorem Site.composes_batchTie {aliasName : String} {keys : BatchKeys} {scope : List Value}
    (aliased : (site.sources batch).name aliasName)
    (named : ∀ s ∈ keys.names, (site.sources batch).name s) (given : batch = some scope)
    (sample : Value) :
    site.dialect.Composes (site.sources batch) (site.batchTie aliasName keys sample scope).key ∧
      ∀ text, (site.batchTie aliasName keys sample scope).scope = some text →
        site.dialect.Composes (site.sources batch) text := by
  have column : site.dialect.Composes (site.sources batch)
      (site.keyColumn aliasName keys sample) :=
    .castLike (.qualify aliased (named _ (by simp [BatchKeys.names]))) sample
  constructor
  · apply Dialect.Composes.append _ (.batchColumn (named _ (by simp [BatchKeys.names])))
    exact .append column (.word (by decide))
  · intro text same
    cases same
    exact .inList column fun value listed => .key given listed

theorem Site.composes_filter {answer : Option String}
    (filtered : site.FilterAnswers site.node.filter site.node.aliasName answer) :
    ∀ text, answer = some text → site.dialect.Composes (site.sources batch) text := by
  intro text same
  rw [same] at filtered
  exact .said (.filter filtered)

theorem Site.composes_junctionFilter {answer : Option String}
    (through : site.node.junction = some junction)
    (restricted : site.FilterAnswers junction.filter junction.aliasName answer) :
    ∀ text, answer = some text → site.dialect.Composes (site.sources batch) text := by
  intro text same
  rw [same] at restricted
  exact .said (.junctionFilter through restricted)

/-- The fragments of a link are composed of what the relation hands in. -/
theorem Site.composed_of_builds {parent : Option String} {scope : List Value} {paging : Paging}
    {link : Link κ} {fragments : List Fragment}
    (offered : link.Offered site.node parent batch scope)
    (paged : paging.Known (site.sources batch))
    (builds : site.Builds paging scope link fragments) :
    ∀ fragment ∈ fragments, fragment.Composed site.dialect (site.sources batch) := by
  have known : (site.sources batch).KnowsTable site.node.table site.node.aliasName :=
    site.knowsTable batch
  cases builds with
  | root filtered =>
      rw [List.forall_mem_singleton]
      exact composed_rootFragment paged known (composes_filter filtered)
  | @joined _ key _ _ reached filtered =>
      obtain ⟨-, given, -⟩ := offered
      rw [List.forall_mem_singleton]
      exact composed_directFragment paged known (composes_filter filtered) .left
        (.said (.join given reached)) nofun
  | joinedThrough reached restricted filtered joined =>
      obtain ⟨through, -, others, joins⟩ := offered
      exact composed_junctionFragments paged known (knowsTable_of_junction through)
        (.said (.junctionJoin through (by simp [joins]) reached)) nofun
        (composes_junctionFilter through restricted) (composes_filter filtered)
        (.said (.junctionJoin through (by simp [joins]) joined))
  | @batched keys _ filtered =>
      obtain ⟨-, keyed, given, -⟩ := offered
      have named : ∀ s ∈ keys.names, (site.sources batch).name s := by
        intro s listed
        simp [sources, Node.names, keyed, listed]
      obtain ⟨tied, standIn⟩ :=
        composes_batchTie known.aliasName named given (scope.headD .null)
      rw [List.forall_mem_cons, List.forall_mem_singleton]
      constructor
      · exact ⟨named _ (by simp [BatchKeys.names]), fun key listed => .key given listed⟩
      · exact composed_directFragment paged known (composes_filter filtered) .inner tied standIn
  | @batchedThrough junction junctionBatch _ restricted filtered joined =>
      obtain ⟨through, keyed, given, -⟩ := offered
      have between : (site.sources batch).KnowsTable junction.table junction.aliasName :=
        knowsTable_of_junction through
      have named : ∀ s ∈ junctionBatch.keys.names, (site.sources batch).name s := by
        intro s listed
        apply knows_of_junction through
        simp [Junction.names, keyed, listed]
      obtain ⟨tied, standIn⟩ :=
        composes_batchTie between.aliasName named given (scope.headD .null)
      rw [List.forall_mem_cons]
      constructor
      · exact ⟨named _ (by simp [BatchKeys.names]), fun key listed => .key given listed⟩
      · exact composed_junctionFragments paged known between tied standIn
          (composes_junctionFilter through restricted) (composes_filter filtered)
          (.said (.batchJoin through keyed joined))

end Sources

end PagedJoins
