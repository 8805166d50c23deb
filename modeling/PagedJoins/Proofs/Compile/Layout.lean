import PagedJoins.Proofs.Compile.Paged
import PagedJoins.Proofs.Compile.Shape
import PagedJoins.Proofs.Compile.Span

/-!
# The layout of a compiled relation

Rows are taken apart by what is known of the fragments beforehand: of what kind they are, which
aliases they bring in, which of them is a page, and under which name all rows are counted. So the
fragments of a relation have to agree with its strategy and its page, and nothing but the select of
the page may count rows under that name.
-/

namespace PagedJoins

/-! ## Pages -/

/-- Is a fragment the page that this is known of? It is a derived or a lateral table, whose select
lists all columns of the table that it is named after and then the count of all rows, and ends in
the line of the window. All else is plain. -/
structure Fragment.IsPage (dialect : Dialect) (sources : Sources) (info : PageInfo)
    (fragment : Fragment) : Prop where
  kind : fragment.kind = .derived ∨ fragment.kind = .lateral
  spans : ∃ opening rows trailing, Span.AllPlain dialect sources (opening ++ rows ++ trailing) ∧
    fragment.spans dialect = opening ++
      derivedSpans
        (listSpans fragment.aliasName [.total] ++ rows ++ [.window info.limit info.offset])
        fragment.aliasName ++ trailing

theorem Fragment.isPage_of_select {dialect : Dialect} {sources : Sources} {fragment : Fragment}
    {select : PagedSelect} {info : PageInfo} (composed : fragment.Composed dialect sources)
    (paged : fragment.select? = some select) (limit : select.limit = info.limit)
    (offset : select.offset = info.offset) : fragment.IsPage dialect sources info := by
  cases fragment with
  | firstPage first =>
      cases paged
      have inside : select.Composed dialect sources := composed
      constructor
      case kind => exact .inl rfl
      case spans =>
        refine ⟨[.word "FROM "], select.rowSpans dialect false, [], ?_, ?_⟩
        · simp [inside.allPlain, Span.Plain]
        · simp [Fragment.spans, PagedSelect.spans, aliasName, limit, offset]
  | page kind attached on =>
      cases paged
      obtain ⟨inside, behind⟩ := composed
      constructor
      case kind => exact .inr rfl
      case spans =>
        refine ⟨[.word (dialect.attachment kind)], select.rowSpans dialect true,
          if dialect.lateralStyle = .crossApply then [] else [.word " ON ", .condition on], ?_, ?_⟩
        · split <;> simp [inside.allPlain, Span.plain_attachment, Span.Plain, behind]
        · simp [Fragment.spans, PagedSelect.spans, aliasName, limit, offset]
  | firstTable | batch | table => cases paged

/-! ## Strategies -/

variable {κ : Type}

/-- The kinds of the fragments of a strategy, with a page or without one. -/
def Strategy.kinds (strategy : Strategy) (hasPage : Bool) : List FragmentKind :=
  let ofTable : FragmentKind := if hasPage then .lateral else .join
  match strategy with
  | root => [.derived]
  | joinedOneToMany => [ofTable]
  | joinedManyToMany => [ofTable, .join]
  | batchedOneToMany => [.values, ofTable]
  | batchedManyToMany => [.values, ofTable, .join]

/-- The kinds of the tables of a link are those of its strategy. -/
theorem Link.kinds_tables (node : Node κ) (paging : Paging) (link : Link κ) :
    (link.tables node paging).map (·.1) = link.strategy.kinds paging.info?.isSome := by
  cases paging <;> cases link <;> rfl

theorem Link.isThroughJunction_of_offered {node : Node κ} {parent : Option String}
    {batch : Option (List Value)} {scope : List Value} {link : Link κ}
    (offered : link.Offered node parent batch scope) :
    link.strategy.isThroughJunction = node.junction.isSome := by
  cases link with
  | root | joined | batched =>
      obtain ⟨alone, -⟩ := offered
      rw [alone]
      rfl
  | joinedThrough | batchedThrough =>
      obtain ⟨through, -⟩ := offered
      rw [through]
      rfl

/-- What is known of a page is what was asked of it. -/
theorem Paging.request_of_info {paging : Paging} {info : PageInfo}
    (known : paging.info? = some info) :
    ∃ request, paging.request? = some request ∧ request.limit = info.limit ∧
      request.offset = info.offset := by
  cases paging with
  | keyset page =>
      cases known
      exact ⟨_, rfl, rfl, rfl⟩
  | offset page =>
      cases known
      exact ⟨_, rfl, rfl, rfl⟩
  | unpaginated => cases known

theorem Paging.request_of_no_info {paging : Paging} (unknown : paging.info? = none) :
    paging.request? = none := by
  cases paging with
  | keyset page => cases unknown
  | offset page => cases unknown
  | unpaginated => rfl

/-- There is a page just if the relation or its junction has a sort key or an order. -/
theorem Node.isSome_info?_iff {config : Config} {node : Node κ} {paging : Paging}
    (asked : node.paging config = .ok paging) :
    paging.info?.isSome = true ↔
      (∃ order, node.SortedBy order) ∨ ∃ order, node.OrderedBy order := by
  have whole : node.paging config = .ok .unpaginated ↔
      ¬ ((∃ order, node.SortedBy order) ∨ ∃ order, node.OrderedBy order) :=
    paging_eq_unpaginated_iff
  rw [asked, Except.ok.injEq] at whole
  have known : paging.info?.isSome = true ↔ paging ≠ .unpaginated := by
    cases paging <;> simp [Paging.info?]
  rw [known, Ne, whole, not_not]

/-- As many fragments are flagged as pages were asked for. -/
theorem length_flagged (fragments : List Fragment) :
    (fragments.filter (·.isPaginated)).length = (pageRequests fragments).length := by
  rw [pageRequests, List.length_map, List.length_filterMap_eq_countP, List.countP_eq_length_filter]
  congr 2
  funext fragment
  exact fragment.isPaginated_eq

/-- Where one page was asked for, one fragment is flagged, and it has that page. -/
theorem exists_flagged {fragments : List Fragment} {request : PageRequest}
    (asked : pageRequests fragments = [request]) :
    ∃ fragment select, fragments.filter (·.isPaginated) = [fragment] ∧ fragment ∈ fragments ∧
      fragment.select? = some select ∧ select.request = request := by
  have one := length_flagged fragments
  rw [asked] at one
  obtain ⟨fragment, only⟩ := List.length_eq_one_iff.mp one
  have member : fragment ∈ fragments.filter (·.isPaginated) := by simp [only]
  obtain ⟨listed, flagged⟩ := List.mem_filter.mp member
  rw [Fragment.isPaginated_eq] at flagged
  obtain ⟨select, paged⟩ := Option.isSome_iff_exists.mp flagged
  have same : select.request ∈ pageRequests fragments :=
    List.mem_map_of_mem (List.mem_filterMap.mpr ⟨fragment, listed, paged⟩)
  rw [asked] at same
  exact ⟨fragment, select, only, listed, paged, List.mem_singleton.mp same⟩

theorem unflagged_of_requests {fragments : List Fragment} (unasked : pageRequests fragments = []) :
    ∀ fragment ∈ fragments, fragment.isPaginated = false := by
  have none := length_flagged fragments
  rw [unasked, List.length_nil, List.length_eq_zero_iff, List.filter_eq_nil_iff] at none
  exact fun fragment member => eq_false_of_ne_true (none fragment member)

section Node

variable {config : Config} {node : Node κ} {parent : Option String} {context : κ}
variable {batch : Option (List Value)} {compiled : Compiled}

/-- The fragments of a relation are laid out as its strategy and its page say. Their kinds are those
of the strategy, and their aliases that of the junction, if there is one, and of the relation,
behind that of the table of a batch. There is a page just if the relation or its junction has a sort
key or an order. It is that of one fragment, the only one that is flagged, and is written as it is
known: it counts all rows once, and ends in its window. Nothing else that is written in a fragment
could be such a count, unless it was handed in: as a name of the relation, a value, or the answer of
a callback. -/
theorem Node.compile_layout
    (succeeds : (node.compile config parent context batch).outcome = .ok compiled) :
    let sources := ({ dialect := config.dialect, node, context } : Site κ).sources batch
    compiled.fragments.map (·.kind) = compiled.strategy.kinds compiled.page.isSome ∧
    (compiled.fragments.map (·.aliasName) =
        (if compiled.strategy.isBatched then ["temp"] else []) ++
          ((node.junction.map (·.aliasName)).toList ++ [node.aliasName]) ∧
      compiled.strategy.isThroughJunction = node.junction.isSome) ∧
    (compiled.page.isSome = true ↔
      (∃ order, node.SortedBy order) ∨ ∃ order, node.OrderedBy order) ∧
    (∀ info, compiled.page = some info → ∃ fragment,
      compiled.fragments.filter (·.isPaginated) = [fragment] ∧
      fragment.IsPage config.dialect sources info) ∧
    (compiled.page = none → ∀ fragment ∈ compiled.fragments, fragment.isPaginated = false) ∧
    ∀ fragment ∈ compiled.fragments,
      Span.text config.dialect (fragment.spans config.dialect) = fragment.render config.dialect ∧
      (fragment.isPaginated = false →
        Span.AllPlain config.dialect sources (fragment.spans config.dialect)) := by
  intro sources
  obtain ⟨plan, settled, answered⟩ := compile_eq_ok succeeds
  obtain ⟨offered, asked⟩ := plan_eq_ok settled
  obtain ⟨strategy, page⟩ := compile_of_plan settled succeeds
  have tables := Site.tables_of_fragments answered
  have requests := Site.requests_of_fragments answered
  have composed := Site.composed_of_builds offered (Site.paging_known asked)
    (Site.builds_of_fragments answered)
  refine ⟨?kinds, ⟨?aliases, ?junction⟩, ?paged, ?page, ?whole, ?text⟩
  case kinds =>
    have kinds := congrArg (List.map (·.1)) tables
    rw [List.map_map, Link.kinds_tables, ← strategy, ← page] at kinds
    exact kinds
  case aliases =>
    have aliases := congrArg (List.map (·.2)) tables
    rw [List.map_map, Link.aliases_tables offered, ← strategy] at aliases
    exact aliases
  case junction => rw [strategy, Link.isThroughJunction_of_offered offered]
  case paged => rw [page, isSome_info?_iff asked]
  case page =>
    intro info known
    obtain ⟨request, same, limit, offset⟩ := Paging.request_of_info (page.symm.trans known)
    rw [same] at requests
    obtain ⟨fragment, select, only, member, paged, rfl⟩ := exists_flagged requests
    exact ⟨fragment, only, Fragment.isPage_of_select (composed fragment member) paged limit offset⟩
  case whole =>
    intro none
    apply unflagged_of_requests
    rw [requests, Paging.request_of_no_info (page.symm.trans none)]
    rfl
  case text =>
    intro fragment member
    refine ⟨Span.text_fragmentSpans fragment, ?_⟩
    intro unflagged
    apply (composed fragment member).allPlain
    rw [Fragment.isPaginated_eq] at unflagged
    exact Option.isNone_iff_eq_none.mp (Option.isSome_eq_false_iff.mp unflagged)

end Node

/-- The page of the tags of two posts is laid out as its strategy says, behind the table of the two
and before the tags. -/
theorem compile_layout_tagsByName :
    ∃ compiled info fragment,
      (tagsByName.compile { dialect := .sqlite } none ()
        (some [.text "a", .text "b"])).outcome = .ok compiled ∧
      compiled.fragments.map (·.kind) = [.values, .lateral, .join] ∧
      compiled.fragments.map (·.aliasName) = ["temp", "pt", "t"] ∧
      compiled.page = some info ∧
      compiled.fragments.filter (·.isPaginated) = [fragment] ∧
      fragment.IsPage .sqlite (({ dialect := .sqlite, node := tagsByName, context := () } :
        Site Unit).sources (some [.text "a", .text "b"])) info := by
  have succeeds : (tagsByName.compile { dialect := .sqlite } none ()
    (some [.text "a", .text "b"])).outcome = .ok _ := rfl
  obtain ⟨kinds, ⟨aliases, -⟩, -, page, -⟩ := Node.compile_layout succeeds
  obtain ⟨fragment, only, laid⟩ := page _ rfl
  exact ⟨_, _, fragment, succeeds, kinds, aliases, rfl, only, laid⟩

end PagedJoins
