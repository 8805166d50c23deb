import PagedJoins.Proofs.Compile.Blank

/-!
# Pages that are compiled

The select of a page is put together from the paging, a table and conditions. What the paging
settles of it, the order, the seek and the window, is there as it was settled, whatever the link of
the relation is, and no fragment has a page if there is no paging. So the select can be relied on
for what the paging can be relied on. A seek has a value for each of its columns, and always has a
text. A sort key has columns, but an order may list none, and then nothing stands behind
`ORDER BY`.
-/

namespace PagedJoins

variable {κ : Type}

/-! ## What the paging settles -/

/-- What is asked of a page: its order, where it starts, and how many rows it has. -/
structure PageRequest where
  order : Order
  seek : Option Seek
  limit : Limit
  offset : Option UInt64
  deriving DecidableEq, Repr

/-- What the paging asks of a page. -/
def Paging.request? : Paging → Option PageRequest
  | keyset page => some ⟨page.order, page.seek, page.limit, none⟩
  | offset page => some ⟨page.order, none, page.limit, page.offset⟩
  | unpaginated => none

/-- What was asked of a select. -/
def PagedSelect.request (select : PagedSelect) : PageRequest :=
  ⟨select.order, select.seek, select.limit, select.offset⟩

/-- What was asked of the pages of some fragments. -/
def pageRequests (fragments : List Fragment) : List PageRequest :=
  (fragments.filterMap Fragment.select?).map PagedSelect.request

theorem requests_rootFragment (relation : Relation) (paging : Paging) (filter : Option String) :
    pageRequests [rootFragment relation paging filter] = paging.request?.toList := by
  cases paging <;> rfl

theorem requests_directFragment (relation : Relation) (paging : Paging) (kind : JoinKind)
    (tie : Tie) (filter : Option String) :
    pageRequests [directFragment relation paging kind tie filter] = paging.request?.toList := by
  cases paging <;> rfl

theorem requests_junctionFragments (node : Node κ) (junction : Junction κ) (paging : Paging)
    (tie : Tie) (answers : JunctionAnswers) :
    pageRequests (junctionFragments node junction paging tie answers) =
      paging.request?.toList := by
  cases paging <;> rfl

theorem requests_batch (column : String) (keys : List Value) (fragments : List Fragment) :
    pageRequests (.batch column keys :: fragments) = pageRequests fragments :=
  rfl

theorem Site.requests_of_fragments {site : Site κ} {paging : Paging} {scope : List Value}
    {link : Link κ} {fragments : List Fragment}
    (succeeds : (site.fragments paging scope link).outcome = .ok fragments) :
    pageRequests fragments = paging.request?.toList := by
  cases builds_of_fragments succeeds with
  | root => exact requests_rootFragment ..
  | joined => exact requests_directFragment ..
  | joinedThrough => exact requests_junctionFragments ..
  | batched =>
      rw [requests_batch]
      exact requests_directFragment ..
  | batchedThrough =>
      rw [requests_batch]
      exact requests_junctionFragments ..

section Node

variable {config : Config} {node : Node κ} {parent : Option String} {context : κ}
variable {batch : Option (List Value)} {compiled : Compiled}

/-- A compiled relation has the page that it asks for, and no other. -/
theorem Node.compile_requests
    (succeeds : (node.compile config parent context batch).outcome = .ok compiled) :
    ∃ paging, node.paging config = .ok paging ∧ compiled.page = paging.info? ∧
      pageRequests compiled.fragments = paging.request?.toList := by
  obtain ⟨plan, settled, answered⟩ := compile_eq_ok succeeds
  exact ⟨plan.paging, (plan_eq_ok settled).2, (compile_of_plan settled succeeds).2,
    Site.requests_of_fragments answered⟩

theorem Node.request_of_compile {fragment : Fragment} {select : PagedSelect}
    (succeeds : (node.compile config parent context batch).outcome = .ok compiled)
    (member : fragment ∈ compiled.fragments) (paged : fragment.select? = some select) :
    ∃ paging, node.paging config = .ok paging ∧ paging.request? = some select.request := by
  obtain ⟨paging, asked, -, requests⟩ := compile_requests succeeds
  have listed : select.request ∈ pageRequests compiled.fragments :=
    List.mem_map_of_mem (List.mem_filterMap.mpr ⟨fragment, member, paged⟩)
  rw [requests] at listed
  exact ⟨paging, asked, Option.mem_toList.mp listed⟩

end Node

theorem Fragment.isPaginated_eq (fragment : Fragment) :
    fragment.isPaginated = fragment.select?.isSome := by
  cases fragment <;> rfl

/-! ## Orders -/

theorem Order.isBlank_render (order : Order) (dialect : Dialect) :
    Text.isBlank (order.render dialect) = true ↔ order.columns = [] := by
  obtain ⟨table, columns⟩ := order
  cases columns with
  | nil => exact iff_of_true rfl rfl
  | cons sort columns =>
      have directed : Text.isBlank sort.direction.keyword = false := by
        cases sort.direction <;> decide
      have solid : Text.isBlank (dialect.orderTerm table sort) = false := by
        rw [Dialect.orderTerm, isBlank_append, directed, Bool.and_false]
      have list : Text.isBlank (Order.render dialect ⟨table, sort :: columns⟩) = false :=
        isBlank_intercalate _ solid
      exact iff_of_false (by simp [list]) nofun

/-- Does a text have the order of a page on a line of its own? -/
def PagedSelect.OrderedIn (dialect : Dialect) (select : PagedSelect) (text : String) : Prop :=
  ∃ before behind,
    text = before ++ "\n" ++ ("ORDER BY " ++ select.order.render dialect) ++ "\n" ++ behind

/-- A page in parentheses has its order on a line of its own: its window stands behind it, or else
the line of the closing parenthesis. -/
theorem PagedSelect.orderedIn_derived (dialect : Dialect) (isAttached : Bool)
    (select : PagedSelect) (front trailing : String) :
    select.OrderedIn dialect
      (front ++ dialect.derivedTable (select.body dialect (select.filter dialect isAttached))
        select.aliasName ++ trailing) := by
  rw [OrderedIn, ← joinPieces_select, pieces, Dialect.derivedTable, joinPieces_append]
  generalize joinPieces (_ ++ _) = lines
  by_cases none : dialect.windowClause select.limit select.offset = ""
  · refine ⟨front ++ "(\n" ++ lines ++ "\n" ++ ("WHERE " ++ select.filter dialect isAttached),
      ") " ++ dialect.quote select.aliasName ++ trailing, ?_⟩
    have closing : ∀ rest, "\n) " ++ rest = "\n" ++ (") " ++ rest) := by
      intro rest
      rw [← String.append_assoc]
      rfl
    simp [none, Piece.render, Clause.keyword, String.append_assoc, closing]
  · refine ⟨front ++ "(\n" ++ lines ++ "\n" ++ ("WHERE " ++ select.filter dialect isAttached),
      dialect.windowClause select.limit select.offset ++ "\n) " ++
        dialect.quote select.aliasName ++ trailing, ?_⟩
    simp [none, Piece.render, Clause.keyword, String.append_assoc]

/-- A fragment that has a page has its order on a line of its own. -/
theorem Fragment.orderedIn_render (dialect : Dialect) {fragment : Fragment} {select : PagedSelect}
    (paged : fragment.select? = some select) :
    select.OrderedIn dialect (fragment.render dialect) := by
  cases fragment with
  | firstPage first =>
      cases paged
      have ordered := select.orderedIn_derived dialect false "FROM " ""
      rwa [String.append_empty] at ordered
  | page kind attached on =>
      cases paged
      rw [render, PagedSelect.attached, Dialect.attach_eq]
      exact select.orderedIn_derived ..
  | firstTable | batch | table => cases paged

/-- Has a relation, or else its junction, an order that lists no columns? -/
def Node.OrderedByNothing (node : Node κ) : Prop :=
  ∃ table, node.OrderedBy ⟨table, []⟩

section Orders

variable {config : Config} {node : Node κ} {order : Order}

theorem Node.orderedByNothing_iff (ordered : node.OrderedBy order) :
    order.columns = [] ↔ node.OrderedByNothing := by
  constructor
  · intro empty
    obtain ⟨table, columns⟩ := order
    cases empty
    exact ⟨table, ordered⟩
  · intro nothing
    obtain ⟨table, other⟩ := nothing
    rw [← rowOrder?_eq_some_iff] at ordered other
    cases ordered.symm.trans other
    rfl

theorem Node.hasOrder_of_keyset {page : KeysetPage}
    (asked : node.paging config = .ok (.keyset page)) : node.hasOrder = false := by
  unfold paging at asked
  split at asked
  · cases asked
  · rename_i faultless
    split at asked
    · rename_i keyed
      simp only [orderFault?, keyed, true_and] at faultless
      split at faultless
      · cases faultless
      · rename_i unordered
        exact eq_false_of_ne_true unordered
    · split at asked
      · obtain ⟨page, -, other⟩ := exists_of_map_eq_ok asked
        cases other
      · cases asked

theorem Node.keysetPage_order {page : KeysetPage} (asked : node.keysetPage config = .ok page) :
    page.order.columns ≠ [] := by
  obtain ⟨base, -, nonempty, coherent⟩ := coherent_of_keysetPage asked
  rw [coherent.columns]
  exact fun none => nonempty (List.map_eq_nil_iff.mp none)

/-- The order of a page lists no columns just if the relation has an order that lists none. -/
theorem Node.orderedByNothing_of_request {paging : Paging} {request : PageRequest}
    (asked : node.paging config = .ok paging) (same : paging.request? = some request) :
    request.order.columns = [] ↔ node.OrderedByNothing := by
  obtain ⟨page, read, rfl⟩ | ⟨page, read, rfl⟩ | rfl := paging_eq_ok asked
  · cases same
    apply iff_of_false (keysetPage_order read)
    intro nothing
    obtain ⟨table, ordered⟩ := nothing
    exact Bool.false_ne_true
      ((hasOrder_of_keyset asked).symm.trans (hasOrder_iff.mpr ⟨_, ordered⟩))
  · cases same
    exact orderedByNothing_iff (rowOrder?_eq_some_iff.mp (offsetPage_eq_ok_iff.mp read).1)
  · cases same

end Orders

/-- A page by sort key has columns to order by. A page by position has some too, unless the order of
the relation, or else that of its junction, lists none. Every paginated fragment has its order on a
line of its own behind `ORDER BY`, and the list there is blank in just that case. -/
theorem Node.compile_orders_by_columns (config : Config) (node : Node κ) :
    (∀ page, node.paging config = .ok (.keyset page) → page.order.columns ≠ []) ∧
    (∀ page, node.paging config = .ok (.offset page) →
      (page.order.columns = [] ↔ node.OrderedByNothing)) ∧
    ∀ parent context batch compiled,
      (node.compile config parent context batch).outcome = .ok compiled →
      ∀ fragment ∈ compiled.fragments, fragment.isPaginated = true →
        ∃ select, fragment.select? = some select ∧
          select.OrderedIn config.dialect (fragment.render config.dialect) ∧
          (Text.isBlank (select.order.render config.dialect) = true ↔ node.OrderedByNothing) := by
  refine ⟨?keyset, ?offset, ?compiled⟩
  case keyset =>
    intro page asked
    obtain ⟨_, read, same⟩ | ⟨_, -, other⟩ | other := paging_eq_ok asked
    · cases same
      exact keysetPage_order read
    · cases other
    · cases other
  case offset =>
    intro page asked
    exact orderedByNothing_of_request asked rfl
  case compiled =>
    intro parent context batch compiled succeeds fragment member flagged
    rw [Fragment.isPaginated_eq] at flagged
    obtain ⟨select, paged⟩ := Option.isSome_iff_exists.mp flagged
    obtain ⟨paging, asked, same⟩ := request_of_compile succeeds member paged
    refine ⟨select, paged, Fragment.orderedIn_render config.dialect paged, ?_⟩
    rw [Order.isBlank_render]
    exact orderedByNothing_of_request asked same

/-- The first two posts, in whatever order they come. -/
def postsByNothing : Node Unit where
  table := "posts"
  aliasName := "p"
  args := { first := some 2 }
  orderBy := some []

/-- The first two posts, in the order of their numbers. -/
def postsById : Node Unit :=
  { postsByNothing with orderBy := some [⟨"id", .asc⟩] }

/-- The posts have a column to order by, and it is written. -/
theorem compile_orders_by_columns_postsById :
    ∃ page, postsById.paging {} = .ok (.offset page) ∧ page.order.columns ≠ [] ∧
      ∃ compiled fragment select,
        (postsById.compile {} none () none).outcome = .ok compiled ∧
        fragment ∈ compiled.fragments ∧ fragment.select? = some select ∧
        select.OrderedIn .postgres (fragment.render .postgres) ∧
        Text.isBlank (select.order.render .postgres) = false := by
  obtain ⟨-, offset, compiled⟩ := Node.compile_orders_by_columns {} postsById
  have listed : ¬ postsById.OrderedByNothing := by
    rw [← offset _ rfl]
    nofun
  obtain ⟨select, paged, ordered, blank⟩ :=
    compiled none () none _ rfl _ (List.mem_singleton_self _) rfl
  refine ⟨_, rfl, nofun, _, _, select, rfl, List.mem_singleton_self _, paged, ordered, ?_⟩
  exact eq_false_of_ne_true fun empty => listed (blank.mp empty)

/-- The page of the posts that list no order has no columns to order by, and the line of its order
stops behind `ORDER BY`. -/
theorem compile_orders_by_nothing :
    (∃ page, postsByNothing.paging {} = .ok (.offset page) ∧ page.order.columns = []) ∧
      ∃ compiled, (postsByNothing.compile {} none () none).outcome = .ok compiled ∧
        compiled.render .postgres =
          "FROM (\nSELECT \"p\".*, COUNT(*) OVER () AS \"$total\"\nFROM posts AS \"p\"\n" ++
            "WHERE 1>0\nORDER BY \nLIMIT 2\n) \"p\"" :=
  ⟨⟨_, rfl, rfl⟩, _, rfl, by decide⟩

/-! ## Seeks -/

/-- Has a seek columns and a value for each of them, and therefore a text in every dialect? -/
structure Seek.Renders (seek : Seek) : Prop where
  some : 1 ≤ seek.columns.length
  same : seek.columns.length = seek.values.length
  text : ∀ dialect, ∃ text, seek.render? dialect = .some text

theorem KeysetPage.renders_seek {config : Config} {node : Node κ} {page : KeysetPage} {seek : Seek}
    (asked : node.keysetPage config = .ok page) (past : page.seek = some seek) : seek.Renders := by
  obtain ⟨-, nonempty, same⟩ := Node.keysetPage_seek asked past
  constructor
  case some => exact List.length_pos_iff.mpr nonempty
  case same => exact same.symm
  case text =>
    intro dialect
    obtain ⟨text, rendered, -⟩ := Seek.render?_eq_some nonempty same dialect
    exact ⟨text, rendered⟩

/-- Only a page by sort key has a seek, and it is the one that the relation asks for. -/
theorem Node.renders_seek_of_request {config : Config} {node : Node κ} {paging : Paging}
    {request : PageRequest} {seek : Seek} (asked : node.paging config = .ok paging)
    (same : paging.request? = some request) (past : request.seek = some seek) : seek.Renders := by
  obtain ⟨page, read, rfl⟩ | ⟨page, read, rfl⟩ | rfl := paging_eq_ok asked
  · cases same
    exact KeysetPage.renders_seek read past
  · cases same
    cases past
  · cases same

/-- A relation asks for a page by sort key just if it has a sort key with columns, its own or that
of its junction, page arguments that go together, a size or settings that do without one, and a
cursor, if any, with a value for each column. The page then does what the arguments say. A seek has
columns and a value for each of them, so it has a text in every dialect, on the page and wherever
the relation is compiled. -/
theorem Node.keysetPage_coherent (config : Config) (node : Node κ) :
    ((∃ page, node.keysetPage config = .ok page) ↔
      ∃ order, node.AsksForKeyset config order) ∧
    (∀ page, node.keysetPage config = .ok page →
      (∃ base, node.SortedBy base ∧ base.columns ≠ [] ∧ page.Coherent node.args base) ∧
        ∀ seek, page.seek = some seek → seek.Renders) ∧
    ∀ parent context batch compiled,
      (node.compile config parent context batch).outcome = .ok compiled →
      ∀ fragment ∈ compiled.fragments, ∀ select, fragment.select? = some select →
      ∀ seek, select.seek = some seek → seek.Renders := by
  refine ⟨keysetPage_isOk_iff, ?page, ?compiled⟩
  case page =>
    intro page asked
    constructor
    · exact coherent_of_keysetPage asked
    · intro seek past
      exact KeysetPage.renders_seek asked past
  case compiled =>
    intro parent context batch compiled succeeds fragment member select paged seek past
    obtain ⟨paging, asked, same⟩ := request_of_compile succeeds member paged
    exact renders_seek_of_request asked same past

/-- The last two posts before a post, the newest first. -/
def postsBefore : Node Unit where
  table := "posts"
  aliasName := "p"
  args := { last := some 2, before := some "eyJpZCI6eyJJbnQiOjd9LCJuYW1lIjp7IlRleHQiOiJ4In19" }
  sortKey := some [⟨"name", .desc⟩, ⟨"id", .asc⟩]

/-- The page of the posts is coherent, and has one seek, which has a text. -/
theorem keysetPage_coherent_postsBefore :
    (∃ page, postsBefore.keysetPage {} = .ok page ∧
      ∃ base, postsBefore.SortedBy base ∧ page.Coherent postsBefore.args base) ∧
    ∃ compiled fragment select seek,
      (postsBefore.compile {} none () none).outcome = .ok compiled ∧
      fragment ∈ compiled.fragments ∧ fragment.select? = some select ∧
      select.seek = some seek ∧ seek.Renders := by
  let seek : Seek := {
    table := "p"
    columns := [⟨"name", .asc⟩, ⟨"id", .desc⟩]
    values := [.text "x", .integer .regular ⟨7, by decide⟩] }
  let order : Order := ⟨"p", [⟨"name", .asc⟩, ⟨"id", .desc⟩]⟩
  let select : PagedSelect := {
    table := "posts"
    aliasName := "p"
    conditions := {}
    seek := some seek
    order
    limit := .rows 2 }
  have asked : postsBefore.keysetPage {} = .ok ⟨.rows 2, order, some seek, true⟩ := by
    decide +kernel
  have paged : postsBefore.paging {} = .ok (.keyset ⟨.rows 2, order, some seek, true⟩) := by
    change Paging.keyset <$> postsBefore.keysetPage {} = _
    rw [asked]
    rfl
  have succeeds : (postsBefore.compile {} none () none).outcome =
      .ok ⟨.root, some ⟨.keyset, .rows 2, none, true⟩, [.firstPage select]⟩ := by
    unfold Node.compile Node.plan
    rw [paged]
    rfl
  obtain ⟨-, page, compiled⟩ := Node.keysetPage_coherent {} postsBefore
  constructor
  · obtain ⟨⟨base, sorted, -, coherent⟩, -⟩ := page _ asked
    exact ⟨_, asked, base, sorted, coherent⟩
  · exact ⟨_, .firstPage select, select, seek, succeeds, List.mem_singleton_self _, rfl, rfl,
      compiled none () none _ succeeds _ (List.mem_singleton_self _) select rfl seek rfl⟩

end PagedJoins
