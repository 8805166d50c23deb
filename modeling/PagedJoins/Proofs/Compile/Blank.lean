import PagedJoins.Proofs.Compile.Scope
import PagedJoins.Proofs.Sql.Conditions

/-!
# Blank conditions

A fragment is text, and conditions behind `WHERE` and `ON`. A condition that is put together of
several parts is never blank, since a part that is blank is left out and the condition that always
holds stands where no part is left. But the joins of a page are not put together: what ties a page
to its parent, or a junction to its relation, is written behind `ON` as it was answered. So a blank
`ON` is written if, and only if, a relation is paged and one of these answers is blank.
-/

namespace PagedJoins

/-! ## Pieces of a fragment -/

/-- The clauses of a condition: which rows there are, and which are joined. -/
inductive Clause where
  | rows
  | join
  deriving DecidableEq, Repr

/-- What a condition stands behind. -/
def Clause.keyword : Clause → String
  | rows => "WHERE "
  | join => " ON "

/-- A piece of a fragment. -/
inductive Piece where
  | text (s : String)
  | condition (clause : Clause) (s : String)
  deriving DecidableEq, Repr

namespace Piece

/-- A piece as it stands in a statement. -/
def render : Piece → String
  | text s => s
  | condition clause s => clause.keyword ++ s

end Piece

/-- The pieces of a join. -/
def Join.pieces (dialect : Dialect) (join : Join) : List Piece :=
  [.text (join.kind.keywords ++ " " ++ dialect.aliasTable join.table join.aliasName),
    .condition .join join.on]

namespace PagedSelect

/-- The pieces of a select. -/
def pieces (dialect : Dialect) (isAttached : Bool) (select : PagedSelect) : List Piece :=
  let count := ", COUNT(*) OVER () AS " ++ dialect.quote "$total"
  let window := dialect.windowClause select.limit select.offset
  [.text ("\n".intercalate (dialect.selectLines select.table select.aliasName count))] ++
    (select.inner.toList.flatMap fun join =>
      .text "\n" :: Join.pieces dialect ⟨.left, join.table, join.aliasName, join.on⟩) ++
    [.text "\n", .condition .rows (select.filter dialect isAttached),
      .text ("\n" ++ ("ORDER BY " ++ select.order.render dialect)),
      .text (if window = "" then "" else "\n" ++ window)]

end PagedSelect

/-- The pieces of a derived table. -/
def Dialect.derivedPieces (dialect : Dialect) (body : List Piece) (aliasName : String) :
    List Piece :=
  .text "(\n" :: body ++ [.text ("\n) " ++ dialect.quote aliasName)]

/-- The pieces of the rows of a table that meet a condition. -/
def Dialect.plainPieces (dialect : Dialect) (table aliasName filter : String) : List Piece :=
  [.text ("\n".intercalate (dialect.selectLines table aliasName "")), .text "\n",
    .condition .rows filter]

namespace Fragment

/-- The pieces of a fragment. -/
def pieces (dialect : Dialect) : Fragment → List Piece
  | firstPage select =>
    .text "FROM " :: dialect.derivedPieces (select.pieces dialect false) select.aliasName
  | firstTable source aliasName filter =>
    .text "FROM " :: dialect.derivedPieces (dialect.plainPieces source aliasName filter) aliasName
  | page kind select on =>
    .text (dialect.attachment kind) ::
      dialect.derivedPieces (select.pieces dialect true) select.aliasName ++
      if dialect.lateralStyle = .crossApply then [] else [.condition .join on]
  | batch column keys => [.text (dialect.valuesTable column keys)]
  | table join => join.pieces dialect

end Fragment

/-- The text that pieces make up. -/
def joinPieces (pieces : List Piece) : String :=
  String.join (pieces.map Piece.render)

/-- The conditions of a clause among some pieces. -/
def conditionsIn (clause : Clause) : List Piece → List String
  | [] => []
  | .text _ :: pieces => conditionsIn clause pieces
  | .condition other s :: pieces =>
    if other = clause then s :: conditionsIn clause pieces else conditionsIn clause pieces

/-- The conditions of a clause in a fragment. -/
def Fragment.conditions (dialect : Dialect) (clause : Clause) (fragment : Fragment) :
    List String :=
  conditionsIn clause (fragment.pieces dialect)

@[simp] theorem joinPieces_nil : joinPieces [] = "" :=
  rfl

@[simp] theorem joinPieces_cons (piece : Piece) (pieces : List Piece) :
    joinPieces (piece :: pieces) = piece.render ++ joinPieces pieces := by
  simp [joinPieces]

@[simp] theorem joinPieces_append (before behind : List Piece) :
    joinPieces (before ++ behind) = joinPieces before ++ joinPieces behind := by
  simp [joinPieces]

variable {dialect : Dialect}

@[simp] theorem joinPieces_join (join : Join) :
    joinPieces (join.pieces dialect) = join.render dialect := by
  simp [Join.pieces, Join.render, Piece.render, Clause.keyword, String.append_assoc]

@[simp] theorem joinPieces_select (isAttached : Bool) (select : PagedSelect) :
    joinPieces (select.pieces dialect isAttached) =
      select.body dialect (select.filter dialect isAttached) := by
  unfold PagedSelect.pieces PagedSelect.body
  dsimp only
  cases select.inner <;> split <;>
    simp [Dialect.selectLines, Piece.render, Clause.keyword, totalColumn, String.append_assoc]

@[simp] theorem joinPieces_derived (body : List Piece) (aliasName : String) :
    joinPieces (dialect.derivedPieces body aliasName) =
      dialect.derivedTable (joinPieces body) aliasName := by
  simp [Dialect.derivedPieces, Dialect.derivedTable, Piece.render, String.append_assoc]

theorem joinPieces_fragment (fragment : Fragment) :
    joinPieces (fragment.pieces dialect) = fragment.render dialect := by
  cases fragment with
  | firstPage select =>
      simp [Fragment.pieces, Fragment.render, PagedSelect.standalone, Piece.render]
  | firstTable source aliasName filter =>
      simp [Fragment.pieces, Fragment.render, Dialect.plainTable, Dialect.plainPieces,
        Dialect.selectLines, Piece.render, Clause.keyword, String.append_assoc]
  | page kind select on =>
      rw [Fragment.render, PagedSelect.attached, Dialect.attach_eq, Dialect.trailingOn,
        Fragment.pieces]
      split <;> simp [Piece.render, Clause.keyword, String.append_assoc]
  | batch column keys => simp [Fragment.pieces, Fragment.render, Piece.render]
  | table join => exact joinPieces_join join

/-! ## The conditions of a fragment -/

section Conditions

variable {clause : Clause}

@[simp] theorem conditionsIn_append (before behind : List Piece) :
    conditionsIn clause (before ++ behind) =
      conditionsIn clause before ++ conditionsIn clause behind := by
  fun_induction conditionsIn clause before with
  | case1 => rfl
  | case2 s pieces ih => simpa [conditionsIn] using ih
  | case3 s pieces ih => simpa [conditionsIn] using ih
  | case4 other s pieces differs ih => simpa [conditionsIn, differs] using ih

@[simp] theorem rows_select (isAttached : Bool) (select : PagedSelect) :
    conditionsIn .rows (select.pieces dialect isAttached) =
      [select.filter dialect isAttached] := by
  cases inner : select.inner <;> simp [PagedSelect.pieces, Join.pieces, conditionsIn, inner]

@[simp] theorem joins_select (isAttached : Bool) (select : PagedSelect) :
    conditionsIn .join (select.pieces dialect isAttached) =
      (select.inner.map (·.on)).toList := by
  cases inner : select.inner <;> simp [PagedSelect.pieces, Join.pieces, conditionsIn, inner]

@[simp] theorem conditionsIn_derived (body : List Piece) (aliasName : String) :
    conditionsIn clause (dialect.derivedPieces body aliasName) = conditionsIn clause body := by
  simp [Dialect.derivedPieces, conditionsIn]

namespace Fragment

/-- The `WHERE` of a fragment. -/
theorem rows_eq (fragment : Fragment) :
    fragment.conditions dialect .rows =
      match fragment with
      | firstPage select => [select.filter dialect false]
      | firstTable _ _ filter => [filter]
      | page _ select _ => [select.filter dialect true]
      | batch .. | table _ => [] := by
  cases fragment with
  | firstPage select => simp [conditions, pieces, conditionsIn]
  | firstTable source aliasName filter =>
      simp [conditions, pieces, conditionsIn, Dialect.plainPieces]
  | page kind select on =>
      rw [conditions, pieces]
      split <;> simp [conditionsIn]
  | batch column keys => rfl
  | table join => rfl

theorem joins_eq (fragment : Fragment) :
    fragment.conditions dialect .join =
      match fragment with
      | firstPage select => (select.inner.map (·.on)).toList
      | page _ select on => (select.inner.map (·.on)).toList ++
          if dialect.lateralStyle = .crossApply then [] else [on]
      | firstTable .. | batch .. => []
      | table join => [join.on] := by
  cases fragment with
  | firstPage select => simp [conditions, pieces, conditionsIn]
  | firstTable source aliasName filter =>
      simp [conditions, pieces, conditionsIn, Dialect.plainPieces]
  | page kind select on =>
      rw [conditions, pieces]
      split <;> simp [conditionsIn]
  | batch column keys => rfl
  | table join => rfl

end Fragment

end Conditions

/-! ## What is never blank -/

theorem Tie.solid_conditions (tie : Tie) (parts : List (Option String)) :
    (tie.conditions parts).Solid := by
  rw [conditions_eq]
  refine ⟨fun key tied => (condition?_eq_some_iff.mp tied).2, fun scope bound => ?_,
    fun predicate member => ?_⟩
  · obtain ⟨given, -, shown⟩ := Option.bind_eq_some_iff.mp bound
    exact (condition?_eq_some_iff.mp shown).2
  · obtain ⟨part, -, shown⟩ := List.mem_filterMap.mp member
    rw [filter_isBlank] at shown
    obtain ⟨given, -, shown⟩ := Option.bind_eq_some_iff.mp shown
    exact (condition?_eq_some_iff.mp shown).2

theorem PagedSelect.isBlank_filter {select : PagedSelect} (solid : select.conditions.Solid)
    (isAttached : Bool) : Text.isBlank (select.filter dialect isAttached) = false := by
  have all : (select.allConditions dialect).Solid := by
    rw [allConditions]
    split
    · exact solid.apply (.push _)
    · exact solid
  rw [filter]
  split
  · exact all.renderUncorrelated
  · exact all.render

theorem Site.isBlank_batchTie {κ : Type} (site : Site κ) (aliasName : String) (keys : BatchKeys)
    (sample : Value) (scope : List Value) :
    Text.isBlank (site.batchTie aliasName keys sample scope).key = false := by
  rw [batchTie, isBlank_append, isBlank_append]
  have equality : Text.isBlank " = " = false := by decide
  simp [equality]

/-! ## The conditions of a link -/

/-- The conditions of a clause in some fragments. -/
def conditionsOf (dialect : Dialect) (clause : Clause) (fragments : List Fragment) :
    List String :=
  fragments.flatMap (·.conditions dialect clause)

/-- Are the conditions behind `WHERE` not blank, and those of them behind `ON` that are blank
just these? -/
structure BlankOnly (dialect : Dialect) (fragments : List Fragment) (bare : String → Prop) :
    Prop where
  rows : ∀ condition ∈ conditionsOf dialect .rows fragments, Text.isBlank condition = false
  joins : ∀ condition, Text.isBlank condition = true →
    (condition ∈ conditionsOf dialect .join fragments ↔ bare condition)

theorem Paging.isSome_info? (paging : Paging) (table aliasName : String) (conditions : Conditions)
    (inner : Option InnerJoin) :
    paging.info?.isSome = (paging.select? table aliasName conditions inner).isSome := by
  cases paging <;> rfl

theorem blankOnly_root (relation : Relation) (paging : Paging) (filter : Option String) :
    BlankOnly dialect [rootFragment relation paging filter] fun _ => False := by
  have solid : (Conditions.push {} filter).Solid := Conditions.solid_empty.apply (.push filter)
  rw [rootFragment]
  split
  · rename_i select paged
    obtain ⟨-, -, same, inner, -⟩ := Paging.select?_eq_some paged
    rw [← same] at solid
    constructor
    · simp [conditionsOf, Fragment.rows_eq, PagedSelect.isBlank_filter solid]
    · simp [conditionsOf, Fragment.joins_eq, inner]
  · constructor
    · simp [conditionsOf, Fragment.rows_eq, solid.render]
    · simp [conditionsOf, Fragment.joins_eq]

/-- A relation that is tied to its parent or batch has a blank condition only behind its page: the
one that ties it, where the dialect has a place for that. -/
theorem blankOnly_direct (relation : Relation) (paging : Paging) (kind : JoinKind) (tie : Tie)
    (filter : Option String) :
    BlankOnly dialect [directFragment relation paging kind tie filter] fun condition =>
      paging.info?.isSome = true ∧ dialect.lateralStyle ≠ .crossApply ∧ condition = tie.key := by
  have solid : (tie.conditions [filter]).Solid := tie.solid_conditions [filter]
  rw [paging.isSome_info? relation.table relation.aliasName (tie.conditions [filter]) none,
    directFragment]
  split
  · rename_i select paged
    obtain ⟨-, -, same, inner, -⟩ := Paging.select?_eq_some paged
    rw [← same] at solid
    constructor
    · simp [conditionsOf, Fragment.rows_eq, PagedSelect.isBlank_filter solid]
    · simp [conditionsOf, Fragment.joins_eq, inner, paged]
  · rename_i whole
    constructor
    · simp [conditionsOf, Fragment.rows_eq]
    · intro condition blank
      refine iff_of_false (fun member => ?_) (by simp [whole])
      have same : condition = (tie.conditions [filter]).render := by
        simpa [conditionsOf, Fragment.joins_eq] using member
      rw [same, solid.render] at blank
      cases blank

variable {κ : Type}

/-- A junction and its relation have a blank condition only at their pages: the one that ties the
junction, where the dialect has a place for that, or the one that ties the relation to the
junction. -/
theorem blankOnly_junction (node : Node κ) (junction : Junction κ) (paging : Paging) (tie : Tie)
    (answers : JunctionAnswers) :
    BlankOnly dialect (junctionFragments node junction paging tie answers) fun condition =>
      paging.info?.isSome = true ∧
        (dialect.lateralStyle ≠ .crossApply ∧ condition = tie.key ∨
          condition = answers.onNode) := by
  have solid := tie.solid_conditions [answers.junctionFilter, answers.nodeFilter]
  have onJunction := (tie.solid_conditions [answers.junctionFilter]).render
  have onNode := (Tie.solid_conditions ⟨answers.onNode, none⟩ [answers.nodeFilter]).render
  rw [paging.isSome_info? junction.table junction.aliasName
    (tie.conditions [answers.junctionFilter, answers.nodeFilter])
    (node.innerJoin? answers.onNode), junctionFragments]
  dsimp only
  split
  · rename_i select paged
    obtain ⟨-, -, same, inner, -⟩ := Paging.select?_eq_some paged
    rw [← same] at solid
    have inside : (select.inner.map (·.on)).toList =
        if node.hasSay = true then [answers.onNode] else [] := by
      rw [inner, node.innerJoin?_eq]
      split <;> rfl
    constructor
    · simp [conditionsOf, Fragment.rows_eq, PagedSelect.isBlank_filter solid]
    · intro condition _
      have written : condition ∈ conditionsOf dialect .join
            [.page .left select tie.key,
              .table ⟨.left, node.table, node.aliasName, answers.onNode⟩] ↔
          node.hasSay = true ∧ condition = answers.onNode ∨
            dialect.lateralStyle ≠ .crossApply ∧ condition = tie.key ∨
            condition = answers.onNode := by
        simp [conditionsOf, Fragment.joins_eq, inside, List.mem_ite_nil_right,
          List.mem_ite_nil_left]
      rw [written, paged, Option.isSome_some]
      constructor
      · rintro (⟨-, rfl⟩ | behind | rfl)
        · exact ⟨rfl, .inr rfl⟩
        · exact ⟨rfl, .inl behind⟩
        · exact ⟨rfl, .inr rfl⟩
      · rintro ⟨-, behind | rfl⟩
        · exact .inr (.inl behind)
        · exact .inr (.inr rfl)
  · rename_i whole
    constructor
    · simp [conditionsOf, Fragment.rows_eq]
    · intro condition blank
      refine iff_of_false (fun member => ?_) (by simp [whole])
      have same : condition = (tie.conditions [answers.junctionFilter]).render ∨
          condition = (Tie.conditions ⟨answers.onNode, none⟩ [answers.nodeFilter]).render := by
        simpa [conditionsOf, Fragment.joins_eq] using member
      rcases same with rfl | rfl
      · exact Bool.false_ne_true (onJunction.symm.trans blank)
      · exact Bool.false_ne_true (onNode.symm.trans blank)

/-! ## Relations -/

/-- Is this the answer of a join condition that a page of the relation writes as it is? -/
def Link.WritesBare (site : Site κ) (answer : String) : Link κ → Prop
  | .root | .batched _ => False
  | .joined parent on =>
    site.dialect.lateralStyle ≠ .crossApply ∧
      site.JoinAnswers on parent site.node.aliasName answer
  | .joinedThrough parent junction toJunction toNode =>
    (site.dialect.lateralStyle ≠ .crossApply ∧
      site.JoinAnswers toJunction parent junction.aliasName answer) ∨
      site.JoinAnswers toNode junction.aliasName site.node.aliasName answer
  | .batchedThrough junction batch =>
    site.JoinAnswers batch.join junction.aliasName site.node.aliasName answer

theorem Site.joinAnswers_iff {site : Site κ} {condition : JoinCondition κ}
    {parentAlias childAlias answer : String}
    (answers : site.JoinAnswers condition parentAlias childAlias answer) (other : String) :
    site.JoinAnswers condition parentAlias childAlias other ↔ other = answer := by
  unfold JoinAnswers at answers ⊢
  rw [answers]
  constructor
  · rintro ⟨⟩
    rfl
  · rintro rfl
    rfl

theorem BlankOnly.batch {fragments : List Fragment} {bare : String → Prop} (column : String)
    (keys : List Value) (only : BlankOnly dialect fragments bare) :
    BlankOnly dialect (.batch column keys :: fragments) bare :=
  ⟨only.rows, only.joins⟩

theorem BlankOnly.congr {fragments : List Fragment} {bare other : String → Prop}
    (only : BlankOnly dialect fragments bare)
    (same : ∀ condition, Text.isBlank condition = true → (bare condition ↔ other condition)) :
    BlankOnly dialect fragments other :=
  ⟨only.rows, fun condition blank => (only.joins condition blank).trans (same condition blank)⟩

/-- The blank conditions of a link are the blank answers that its page writes as they are. -/
theorem Site.blankOnly_of_fragments {site : Site κ} {paging : Paging} {scope : List Value}
    {link : Link κ} {fragments : List Fragment}
    (succeeds : (site.fragments paging scope link).outcome = .ok fragments) :
    BlankOnly site.dialect fragments fun condition =>
      paging.info?.isSome = true ∧ link.WritesBare site condition := by
  cases builds_of_fragments succeeds with
  | @root filter _ =>
      refine (blankOnly_root _ paging filter).congr fun condition _ => ?_
      simp [Link.WritesBare]
  | joined reached _ =>
      refine (blankOnly_direct _ paging .left _ _).congr fun condition _ => ?_
      rw [Link.WritesBare, joinAnswers_iff reached]
  | joinedThrough reached _ _ joined =>
      refine (blankOnly_junction site.node _ paging _ _).congr fun condition _ => ?_
      rw [Link.WritesBare, joinAnswers_iff reached, joinAnswers_iff joined]
  | batched =>
      refine ((blankOnly_direct _ paging .inner _ _).batch _ _).congr fun condition blank => ?_
      refine iff_of_false ?_ (by simp [Link.WritesBare])
      rintro ⟨-, -, rfl⟩
      rw [isBlank_batchTie] at blank
      cases blank
  | batchedThrough _ _ joined =>
      refine ((blankOnly_junction site.node _ paging _ _).batch _ _).congr
        fun condition blank => ?_
      rw [Link.WritesBare, joinAnswers_iff joined]
      refine and_congr_right fun _ => or_iff_right ?_
      rintro ⟨-, rfl⟩
      rw [isBlank_batchTie] at blank
      cases blank

/-- A relation that was compiled has a blank condition in its text only if it is paged and one of
its join conditions has answered with a blank, and then that answer stands behind an `ON`. There is
no other blank condition: none behind `WHERE`, and none at all where the relation is not paged. -/
theorem Node.compile_blank_conditions {config : Config} {node : Node κ} {parent : Option String}
    {context : κ} {batch : Option (List Value)} {compiled : Compiled}
    (succeeds : (node.compile config parent context batch).outcome = .ok compiled) :
    (∀ fragment ∈ compiled.fragments,
      joinPieces (fragment.pieces config.dialect) = fragment.render config.dialect) ∧
    (∀ condition ∈ conditionsOf config.dialect .rows compiled.fragments,
      Text.isBlank condition = false) ∧
    ∃ (link : Link κ) (scope : List Value), link.Offered node parent batch scope ∧
      ∀ condition, Text.isBlank condition = true →
        (condition ∈ conditionsOf config.dialect .join compiled.fragments ↔
          compiled.page.isSome = true ∧
            link.WritesBare { dialect := config.dialect, node, context } condition) := by
  obtain ⟨plan, settled, answered⟩ := Node.compile_eq_ok succeeds
  have only := Site.blankOnly_of_fragments answered
  refine ⟨fun fragment _ => joinPieces_fragment fragment, only.rows, plan.link, plan.scope,
    (Node.plan_eq_ok settled).1, ?_⟩
  rw [(Node.compile_of_plan settled succeeds).2]
  exact only.joins

/-- A page of the posts of a user, whose join condition has nothing to say. -/
def untiedPosts : Node Unit where
  table := "posts"
  aliasName := "p"
  args := { first := some 2 }
  orderBy := some [⟨"id", .asc⟩]
  join := some fun _ => .ok ""

/-- The page of posts is compiled, and its blank condition is the answer of the join condition. -/
theorem compile_blank_conditions_untiedPosts :
    ∃ compiled,
      (untiedPosts.compile { dialect := .postgres } (some "u") () none).outcome = .ok compiled ∧
      (∀ condition ∈ conditionsOf .postgres .rows compiled.fragments,
        Text.isBlank condition = false) ∧
      ∃ (link : Link Unit) (scope : List Value),
        link.Offered untiedPosts (some "u") none scope ∧
        ("" ∈ conditionsOf .postgres .join compiled.fragments ↔
          link.WritesBare { dialect := .postgres, node := untiedPosts, context := () } "") := by
  refine ⟨_, rfl, ?_⟩
  obtain ⟨-, rows, link, scope, offered, joins⟩ :=
    Node.compile_blank_conditions
      (rfl : (untiedPosts.compile { dialect := .postgres } (some "u") () none).outcome = .ok _)
  refine ⟨rows, link, scope, offered, (joins "" rfl).trans (and_iff_right rfl)⟩

/-- Nothing stands behind the `ON` at the end of the page. -/
theorem compile_blank_on :
    ¬ ∀ compiled,
      (untiedPosts.compile { dialect := .postgres } (some "u") () none).outcome = .ok compiled →
      ∀ clause, ∀ condition ∈ conditionsOf .postgres clause compiled.fragments,
        Text.isBlank condition = false := by
  intro solid
  have behind : Text.isBlank "" = false := solid _ rfl .join "" (by decide)
  cases behind

end PagedJoins
