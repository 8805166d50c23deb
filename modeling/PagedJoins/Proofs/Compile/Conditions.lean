import PagedJoins.Proofs.Compile.Answers
import PagedJoins.Proofs.Page.Keyset

/-!
# Where conditions stand

Every condition of a relation that was compiled stands where it belongs, once and in order.
The structural condition ties the relation to its parent or its batch; the other ones are
what the filters said and the seek of the page. A page has all of them in its own `WHERE`,
and is joined on the structural one as well where the dialect has a place for it. Without a
page, each table is joined on its own conditions. Of the conditions in one place, those
that are blank are left out.
-/

namespace PagedJoins

/-! ## Conditions in one place -/

/-- The conditions that are there and not blank, in order. -/
def shown (parts : List (Option String)) : List String :=
  parts.filterMap fun part => part.filter fun text => !Text.isBlank text

/-- All conditions that are there and not blank; one that always holds if there are none. -/
def allOf (parts : List (Option String)) : String :=
  if shown parts = [] then "1>0" else " AND ".intercalate (shown parts)

theorem shown_cons (part : Option String) (parts : List (Option String)) :
    shown (part :: parts) = (part.bind condition?).toList ++ shown parts := by
  rw [shown, List.filterMap_cons, filter_isBlank]
  cases part.bind condition? with
  | none => rfl
  | some text => rfl

namespace Conditions

/-- Pushing some predicates adds those that are there and not blank, and nothing else. -/
theorem foldl_push (conditions : Conditions) (parts : List (Option String)) :
    parts.foldl push conditions =
      { conditions with predicates := conditions.predicates ++ shown parts } := by
  induction parts generalizing conditions with
  | nil => simp [shown]
  | cons part parts ih =>
      rw [List.foldl_cons, ih, shown_cons, push, ← List.append_assoc]

end Conditions

namespace Tie

/-- The structural condition in a body: the one that stands in for it, if any, where the parent
is out of sight. -/
def inBody (dialect : Dialect) (tie : Tie) : Option String :=
  match dialect.lateralStyle with
  | .derivedJoin => tie.scope
  | _ => some tie.key

theorem conditions_eq (tie : Tie) (parts : List (Option String)) :
    tie.conditions parts =
      ⟨condition? tie.key, tie.scope.bind condition?, shown parts⟩ := by
  rw [conditions, Conditions.foldl_push]
  cases tie.scope with
  | none => rfl
  | some scope => rfl

/-- Where the parent can be seen, the structural condition comes first. -/
theorem render_conditions (tie : Tie) (parts : List (Option String)) :
    (tie.conditions parts).render = allOf (some tie.key :: parts) := by
  rw [conditions_eq, Conditions.render, conjunction, allOf, shown_cons]
  rfl

/-- Where the parent is out of sight, what stands in for the structural condition comes first. -/
theorem renderUncorrelated_conditions (tie : Tie) (parts : List (Option String)) :
    (tie.conditions parts).renderUncorrelated = allOf (tie.scope :: parts) := by
  rw [conditions_eq, Conditions.renderUncorrelated, conjunction, allOf, shown_cons]
  rfl

theorem push_conditions (tie : Tie) (parts : List (Option String)) (part : Option String) :
    (tie.conditions parts).push part = tie.conditions (parts ++ [part]) := by
  rw [conditions, conditions, List.foldl_append]
  rfl

end Tie

/-! ## Pages -/

/-- The text of the seek of a page. -/
def Paging.seekText (dialect : Dialect) : Paging → Option String
  | .keyset page => page.seek.bind (·.render? dialect)
  | _ => none

/-- The lines of a page behind its conditions: its order, and its window if it needs one. -/
def Paging.lines? (dialect : Dialect) : Paging → Option (List String)
  | .keyset page => some (lines page.order page.limit none)
  | .offset page => some (lines page.order page.limit page.offset)
  | .unpaginated => none
where
  /-- The lines for an order and a window. -/
  lines (order : Order) (limit : Limit) (offset : Option UInt64) : List String :=
    ("ORDER BY " ++ order.render dialect) ::
      if dialect.windowClause limit offset = "" then [] else [dialect.windowClause limit offset]

namespace Dialect

/-- The rows of a table under some conditions, in parentheses with the alias behind them. Further
tables may be joined, and further lines may stand behind the conditions. -/
def selection (dialect : Dialect) (table aliasName columns : String) (joined : List String)
    (conditions : String) (behind : List String) : String :=
  let lines :=
    ["SELECT " ++ dialect.quote aliasName ++ ".*" ++ columns,
      "FROM " ++ dialect.aliasTable table aliasName] ++ joined ++
    ("WHERE " ++ conditions) :: behind
  "(\n" ++ "\n".intercalate lines ++ "\n) " ++ dialect.quote aliasName

/-- A table that is joined on a condition. -/
def joining (dialect : Dialect) (kind : JoinKind) (table aliasName on : String) : String :=
  kind.keywords ++ " " ++ dialect.aliasTable table aliasName ++ " ON " ++ on

/-- The column of a page that counts all of its rows. -/
def countColumn (dialect : Dialect) : String :=
  ", COUNT(*) OVER () AS " ++ dialect.quote "$total"

/-- What attaches a page to its parent, before the page. -/
def attachment (dialect : Dialect) (kind : JoinKind) : String :=
  match dialect.lateralStyle with
  | .joinLateral => kind.keywords ++ " LATERAL "
  | .crossApply => "CROSS APPLY "
  | .derivedJoin => kind.keywords ++ " "

/-- The condition that stands behind a page, in the dialects that have a place for it. -/
def trailingOn (dialect : Dialect) (structural : String) : String :=
  if dialect.lateralStyle = .crossApply then "" else " ON " ++ structural

/-- The equality that ties a table to its batch: its key, cast to the type of a sample, is the key in
the table of the batch. -/
def keyEquality (dialect : Dialect) (aliasName : String) (keys : BatchKeys) (sample : Value) :
    String :=
  dialect.castLike (dialect.qualify aliasName keys.thisKey.name) sample ++ " = temp." ++
    dialect.quote keys.parentKey.name

/-- What stands in for the equality where the table of the batch is out of sight: the key, cast in
the same way, is one of the keys of the batch. -/
def keyListing (dialect : Dialect) (aliasName : String) (keys : BatchKeys) (sample : Value)
    (values : List Value) : String :=
  dialect.castLike (dialect.qualify aliasName keys.thisKey.name) sample ++
    " IN (" ++ ", ".intercalate (values.map dialect.literal) ++ ")"

theorem attach_eq (dialect : Dialect) (kind : JoinKind) (body aliasName structural : String) :
    dialect.attach kind body aliasName structural =
      dialect.attachment kind ++ dialect.derivedTable body aliasName ++
        dialect.trailingOn structural := by
  rw [attach, attachment, trailingOn]
  cases dialect.lateralStyle with
  | joinLateral => simp [String.append_assoc]
  | crossApply => simp
  | derivedJoin => simp [String.append_assoc]

end Dialect

namespace Paging

variable {paging : Paging} {table aliasName : String} {inner : Option InnerJoin}
variable {select : PagedSelect}

/-- The tables that are joined inside a page. -/
def joinedInside (dialect : Dialect) (inner : Option InnerJoin) : List String :=
  (inner.map fun join => dialect.joining .left join.table join.aliasName join.on).toList

theorem lines?_of_select?_eq_none {conditions : Conditions} (dialect : Dialect)
    (whole : paging.select? table aliasName conditions inner = none) :
    paging.lines? dialect = none := by
  cases paging with
  | keyset page => cases whole
  | offset page => cases whole
  | unpaginated => rfl

/-- A page selects the rows of its table under the conditions it was given and its seek. -/
theorem derivedTable_body (dialect : Dialect) {conditions : Conditions}
    (paged : paging.select? table aliasName conditions inner = some select) (filter : String) :
    ∃ lines, paging.lines? dialect = some lines ∧ select.aliasName = aliasName ∧
      select.allConditions dialect = conditions.push (paging.seekText dialect) ∧
      dialect.derivedTable (select.body dialect filter) aliasName =
        dialect.selection table aliasName dialect.countColumn (joinedInside dialect inner) filter
          lines := by
  cases paging with
  | keyset page =>
      cases paged
      refine ⟨_, rfl, rfl, ?_, ?_⟩
      · cases seek : page.seek with
        | none => simp [PagedSelect.allConditions, seekText, seek]
        | some past => simp [PagedSelect.allConditions, seekText, seek]
      · rw [PagedSelect.body, List.append_assoc _ _ (ite _ _ _)]
        rfl
  | offset page =>
      cases paged
      refine ⟨_, rfl, rfl, (Conditions.push_none conditions).symm, ?_⟩
      rw [PagedSelect.body, List.append_assoc _ _ (ite _ _ _)]
      rfl
  | unpaginated => cases paged

end Paging

/-! ## Fragments -/

/-- The conditions of a page that is attached to its parent: what stands in for the structural
condition, or that condition itself, then the predicates, and the seek at the end. -/
theorem PagedSelect.filter_attached {dialect : Dialect} {select : PagedSelect} {tie : Tie}
    {parts : List (Option String)} {seek : Option String}
    (conditions : select.allConditions dialect = (tie.conditions parts).push seek) :
    select.filter dialect true = allOf (tie.inBody dialect :: (parts ++ [seek])) := by
  rw [filter, conditions, Tie.push_conditions, Tie.render_conditions,
    Tie.renderUncorrelated_conditions, Tie.inBody]
  cases dialect.lateralStyle with
  | joinLateral => rfl
  | crossApply => rfl
  | derivedJoin => rfl

variable {κ : Type}

/-- The text of a relation that stands first. -/
def rootText (dialect : Dialect) (relation : Relation) (paging : Paging)
    (filter : Option String) : String :=
  match paging.lines? dialect with
  | some lines =>
    "FROM " ++ dialect.selection relation.table relation.aliasName dialect.countColumn []
      (allOf [filter, paging.seekText dialect]) lines
  | none =>
    "FROM " ++ dialect.selection relation.table relation.aliasName "" [] (allOf [filter]) []

/-- The text of a relation that is tied to its parent or batch. -/
def directText (dialect : Dialect) (relation : Relation) (paging : Paging) (kind : JoinKind)
    (tie : Tie) (filter : Option String) : String :=
  match paging.lines? dialect with
  | some lines =>
    dialect.attachment kind ++
      dialect.selection relation.table relation.aliasName dialect.countColumn []
        (allOf [tie.inBody dialect, filter, paging.seekText dialect]) lines ++
      dialect.trailingOn tie.key
  | none =>
    dialect.joining kind relation.table relation.aliasName (allOf [some tie.key, filter])

/-- The relation behind a junction, joined inside the page of the junction if it has a say in the
rows of that page, by a filter, an order or a sort key. -/
def innerTexts (dialect : Dialect) (node : Node κ) (on : String) : List String :=
  if node.filter.isSome ∨ node.orderBy.isSome ∨ node.sortKey.isSome then
    [dialect.joining .left node.table node.aliasName on]
  else
    []

/-- The texts of a junction that is tied to its parent or batch, and of its relation. -/
def junctionTexts (dialect : Dialect) (node : Node κ) (junction : Junction κ) (paging : Paging)
    (tie : Tie) (answers : JunctionAnswers) : List String :=
  match paging.lines? dialect with
  | some lines =>
    [dialect.attachment .left ++
        dialect.selection junction.table junction.aliasName dialect.countColumn
          (innerTexts dialect node answers.onNode)
          (allOf [tie.inBody dialect, answers.junctionFilter, answers.nodeFilter,
            paging.seekText dialect]) lines ++
        dialect.trailingOn tie.key,
      dialect.joining .left node.table node.aliasName answers.onNode]
  | none =>
    [dialect.joining .left junction.table junction.aliasName
        (allOf [some tie.key, answers.junctionFilter]),
      dialect.joining .left node.table node.aliasName
        (allOf [some answers.onNode, answers.nodeFilter])]

theorem Conditions.render_push (filter seek : Option String) :
    (push {} filter).render = allOf [filter] ∧
      ((push {} filter).push seek).render = allOf [filter, seek] := by
  have one : push {} filter = [filter].foldl push {} := rfl
  have two : (push {} filter).push seek = [filter, seek].foldl push {} := rfl
  rw [two, one, foldl_push, foldl_push]
  exact ⟨rfl, rfl⟩

theorem render_rootFragment (dialect : Dialect) (relation : Relation) (paging : Paging)
    (filter : Option String) :
    (rootFragment relation paging filter).render dialect =
      rootText dialect relation paging filter := by
  rw [rootFragment, rootText]
  cases found : paging.select? relation.table relation.aliasName (Conditions.push {} filter)
      none with
  | none =>
      rw [Paging.lines?_of_select?_eq_none dialect found]
      dsimp only
      rw [Fragment.render, (Conditions.render_push filter none).1]
      rfl
  | some select =>
      dsimp only
      rw [Fragment.render, PagedSelect.standalone]
      obtain ⟨lines, some, name, conditions, text⟩ :=
        Paging.derivedTable_body dialect found (select.filter dialect false)
      have filtered : select.filter dialect false = allOf [filter, paging.seekText dialect] := by
        rw [PagedSelect.filter, conditions, if_neg (by simp),
          (Conditions.render_push filter (paging.seekText dialect)).2]
      rw [name, text, filtered, some]
      rfl

/-- A relation that is tied to its parent or batch has its conditions in its page, or in the
condition of its join. -/
theorem render_directFragment (dialect : Dialect) (relation : Relation) (paging : Paging)
    (kind : JoinKind) (tie : Tie) (filter : Option String) :
    (directFragment relation paging kind tie filter).render dialect =
      directText dialect relation paging kind tie filter := by
  rw [directFragment, directText]
  cases found : paging.select? relation.table relation.aliasName (tie.conditions [filter]) none with
  | none =>
      rw [Paging.lines?_of_select?_eq_none dialect found]
      dsimp only
      rw [Fragment.render, Tie.render_conditions]
      rfl
  | some select =>
      dsimp only
      rw [Fragment.render, PagedSelect.attached, Dialect.attach_eq]
      obtain ⟨lines, some, name, conditions, text⟩ :=
        Paging.derivedTable_body dialect found (select.filter dialect true)
      rw [name, text, PagedSelect.filter_attached conditions, some]
      rfl

theorem joinedInside_innerJoin? (dialect : Dialect) (node : Node κ) (on : String) :
    Paging.joinedInside dialect (node.innerJoin? on) = innerTexts dialect node on := by
  rw [Node.innerJoin?, innerTexts]
  split
  · rfl
  · rfl

/-- A junction and its relation have their conditions in the page of the junction, or each in
the condition of its own join. -/
theorem render_junctionFragments (dialect : Dialect) (node : Node κ) (junction : Junction κ)
    (paging : Paging) (tie : Tie) (answers : JunctionAnswers) :
    (junctionFragments node junction paging tie answers).map (·.render dialect) =
      junctionTexts dialect node junction paging tie answers := by
  rw [junctionFragments, junctionTexts]
  cases found : paging.select? junction.table junction.aliasName
      (tie.conditions [answers.junctionFilter, answers.nodeFilter])
      (node.innerJoin? answers.onNode) with
  | none =>
      rw [Paging.lines?_of_select?_eq_none dialect found]
      dsimp only
      rw [List.map_cons, List.map_cons, List.map_nil, Fragment.render, Fragment.render,
        Tie.render_conditions, Tie.render_conditions]
      rfl
  | some select =>
      dsimp only
      rw [List.map_cons, List.map_cons, List.map_nil, Fragment.render, Fragment.render,
        PagedSelect.attached, Dialect.attach_eq]
      obtain ⟨lines, some, name, conditions, text⟩ :=
        Paging.derivedTable_body dialect found (select.filter dialect true)
      rw [name, text, PagedSelect.filter_attached conditions, some, joinedInside_innerJoin?]
      rfl

/-! ## Relations -/

/-- The tie of a table to its batch is the equality of the keys, with the list of the keys to stand
in for it. -/
theorem Site.batchTie_eq (site : Site κ) (aliasName : String) (keys : BatchKeys) (sample : Value)
    (scope : List Value) :
    site.batchTie aliasName keys sample scope =
      ⟨site.dialect.keyEquality aliasName keys sample,
        some (site.dialect.keyListing aliasName keys sample scope)⟩ := by
  have column : " = " ++ site.dialect.batchColumn keys.parentKey.name =
      " = temp." ++ site.dialect.quote keys.parentKey.name := by
    rw [Dialect.batchColumn, batchAlias, ← String.append_assoc, ← String.append_assoc]
    rfl
  rw [batchTie, String.append_assoc, column, ← String.append_assoc]
  rfl

/-- Are these the texts of a relation in which the answers of its callbacks stand in their
places? The structural condition is the answer of the join condition, the first one if there
is a junction, or else the equality with the key of the batch, for which the list of the keys
stands in where the batch is out of sight. -/
def Site.InPlace (site : Site κ) (paging : Paging) (scope : List Value) (texts : List String) :
    Link κ → Prop
  | .root =>
    ∃ filter, site.FilterAnswers site.node.filter site.node.aliasName filter ∧
      texts = [rootText site.dialect site.node.toRelation paging filter]
  | .joined parent on =>
    ∃ structural filter,
      site.JoinAnswers on parent site.node.aliasName structural ∧
      site.FilterAnswers site.node.filter site.node.aliasName filter ∧
      texts = [directText site.dialect site.node.toRelation paging .left ⟨structural, none⟩ filter]
  | .joinedThrough parent junction toJunction toNode =>
    ∃ structural junctionFilter nodeFilter onNode,
      site.JoinAnswers toJunction parent junction.aliasName structural ∧
      site.FilterAnswers junction.filter junction.aliasName junctionFilter ∧
      site.FilterAnswers site.node.filter site.node.aliasName nodeFilter ∧
      site.JoinAnswers toNode junction.aliasName site.node.aliasName onNode ∧
      texts = junctionTexts site.dialect site.node junction paging ⟨structural, none⟩
        ⟨junctionFilter, nodeFilter, onNode⟩
  | .batched keys =>
    ∃ filter, site.FilterAnswers site.node.filter site.node.aliasName filter ∧
      texts = [site.dialect.valuesTable keys.parentKey.name scope,
        directText site.dialect site.node.toRelation paging .inner
          ⟨site.dialect.keyEquality site.node.aliasName keys (scope.headD .null),
            some (site.dialect.keyListing site.node.aliasName keys (scope.headD .null) scope)⟩
          filter]
  | .batchedThrough junction batch =>
    ∃ junctionFilter nodeFilter onNode,
      site.FilterAnswers junction.filter junction.aliasName junctionFilter ∧
      site.FilterAnswers site.node.filter site.node.aliasName nodeFilter ∧
      site.JoinAnswers batch.join junction.aliasName site.node.aliasName onNode ∧
      texts = site.dialect.valuesTable batch.keys.parentKey.name scope ::
        junctionTexts site.dialect site.node junction paging
          ⟨site.dialect.keyEquality junction.aliasName batch.keys (scope.headD .null),
            some (site.dialect.keyListing junction.aliasName batch.keys (scope.headD .null) scope)⟩
          ⟨junctionFilter, nodeFilter, onNode⟩

/-- The fragments of a link have the answers of its callbacks in their places. -/
theorem Site.inPlace_of_fragments {site : Site κ} {paging : Paging} {scope : List Value}
    {link : Link κ} {fragments : List Fragment}
    (succeeds : (site.fragments paging scope link).outcome = .ok fragments) :
    site.InPlace paging scope (fragments.map (·.render site.dialect)) link := by
  cases builds_of_fragments succeeds with
  | root filtered =>
      refine ⟨_, filtered, ?_⟩
      rw [List.map_singleton, render_rootFragment]
  | joined reached filtered =>
      refine ⟨_, _, reached, filtered, ?_⟩
      rw [List.map_singleton, render_directFragment]
  | joinedThrough reached restricted filtered joined =>
      refine ⟨_, _, _, _, reached, restricted, filtered, joined, ?_⟩
      rw [render_junctionFragments]
  | batched filtered =>
      refine ⟨_, filtered, ?_⟩
      rw [List.map_cons, List.map_singleton, render_directFragment, batchTie_eq]
      rfl
  | batchedThrough restricted filtered joined =>
      refine ⟨_, _, _, restricted, filtered, joined, ?_⟩
      rw [List.map_cons, render_junctionFragments, batchTie_eq]
      rfl

/-- No condition of a relation that was compiled is lost, doubled or misplaced: whatever link it
offers and whatever paging it asks for, the answers of its callbacks stand in their places, and
so does the seek of its page, which is never blank. -/
theorem Node.compile_conditions_in_place {config : Config} {node : Node κ}
    {parent : Option String} {context : κ} {batch : Option (List Value)} {compiled : Compiled}
    (succeeds : (node.compile config parent context batch).outcome = .ok compiled) :
    ∃ (link : Link κ) (paging : Paging) (scope : List Value),
      link.Offered node parent batch scope ∧ node.paging config = .ok paging ∧
      ({ dialect := config.dialect, node, context } : Site κ).InPlace paging scope
        (compiled.fragments.map (·.render config.dialect)) link ∧
      ∀ page seek, paging = .keyset page → page.seek = some seek →
        ∃ text, paging.seekText config.dialect = some text ∧ Text.isBlank text = false := by
  obtain ⟨plan, settled, answered⟩ := Node.compile_eq_ok succeeds
  obtain ⟨offered, paged⟩ := Node.plan_eq_ok settled
  refine ⟨plan.link, plan.paging, plan.scope, offered, paged,
    Site.inPlace_of_fragments answered, ?_⟩
  intro page seek keyset past
  rw [keyset] at paged ⊢
  obtain ⟨text, rendered, notBlank⟩ := Node.paging_seek_renders paged past config.dialect
  exact ⟨text, by rw [Paging.seekText, past]; exact rendered, notBlank⟩

/-- The open orders of a batch of users, a page of them for each, in a dialect whose pages cannot
see the batch. -/
def openOrders : Node Unit where
  table := "orders"
  aliasName := "o"
  args := { first := some 2 }
  filter := some fun scope => .ok (some (scope.table ++ ".open"))
  sortKey := some [⟨"id", .asc⟩]
  batch := some ⟨⟨"user_id"⟩, ⟨"id"⟩⟩

/-- The open orders of two users are compiled. Their page is joined on the equality of the keys, and
restricted to the two keys where the equality cannot stand. -/
theorem compile_conditions_in_place_openOrders :
    let site : Site Unit := { dialect := .sqlite, node := openOrders, context := () }
    let scope : List Value := [.text "ada", .text "bob"]
    ∃ compiled,
      (openOrders.compile { dialect := .sqlite } none () (some scope)).outcome = .ok compiled ∧
      (∃ paging, openOrders.paging { dialect := .sqlite } = .ok paging ∧
        site.InPlace paging scope (compiled.fragments.map (·.render .sqlite))
          (.batched ⟨⟨"user_id"⟩, ⟨"id"⟩⟩)) ∧
      compiled.fragments.map (·.render .sqlite) =
        ["FROM (SELECT 'ada' AS \"id\" UNION ALL SELECT 'bob') temp",
          "INNER JOIN (\n" ++
          "SELECT \"o\".*, COUNT(*) OVER () AS \"$total\"\n" ++
          "FROM orders AS \"o\"\n" ++
          "WHERE CAST(\"o\".\"user_id\" AS TEXT) IN ('ada', 'bob') AND \"o\".open\n" ++
          "ORDER BY \"o\".\"id\" ASC\n" ++
          "LIMIT 2\n" ++
          ") \"o\" ON CAST(\"o\".\"user_id\" AS TEXT) = temp.\"id\""] := by
  intro site scope
  refine ⟨_, rfl, ?_, by decide +kernel⟩
  obtain ⟨link, paging, scope, offered, paged, inPlace, -⟩ :=
    Node.compile_conditions_in_place
      (rfl : (openOrders.compile { dialect := .sqlite } none () (some scope)).outcome = .ok _)
  cases link with
  | batched keys =>
      obtain ⟨-, keyed, given, -⟩ := offered
      cases keyed
      cases given
      exact ⟨paging, paged, inPlace⟩
  | root => cases offered.2.2.1
  | joined => cases offered.2.1
  | joinedThrough => cases offered.1
  | batchedThrough => cases offered.1

end PagedJoins
