import PagedJoins.Proofs.Compile.Conditions
import PagedJoins.Proofs.Compile.Protocol
import PagedJoins.Proofs.Page.Request

/-!
# What a page refers to

A page stands in parentheses, and knows the tables that it names itself: the one that it selects
from, and perhaps one that is joined inside it. Whose order the page is in is settled by the
paging, what it selects from by the link, and whether a second table is joined by what the
relation has to say about the rows. All three go together: whoever has a say is a table of the
page. Where the page cannot see its parent, nothing in it speaks of the parent.
-/

namespace PagedJoins

variable {κ : Type}

/-! ## Owners of orders -/

/-- Does a strategy go through a junction? -/
def Strategy.isThroughJunction : Strategy → Bool
  | root | joinedOneToMany | batchedOneToMany => false
  | joinedManyToMany | batchedManyToMany => true

/-- Has a relation a say in the rows of a page, by a filter, an order or a sort key? -/
def Node.hasSay (node : Node κ) : Bool :=
  node.filter.isSome || node.orderBy.isSome || node.sortKey.isSome

variable {node : Node κ} {config : Config}

/-- The order of a page. -/
def Paging.order? : Paging → Option Order
  | keyset page => some page.order
  | offset page => some page.order
  | unpaginated => none

/-- The seek of a page. -/
def Paging.seek? : Paging → Option Seek
  | keyset page => page.seek
  | offset _ | unpaginated => none

/-- The aliases that are bound in a page: that of its table, and that of a table joined inside. -/
def PagedSelect.aliases (select : PagedSelect) : List String :=
  select.aliasName :: (select.inner.map (·.aliasName)).toList

/-- Are the tables that may have a say in a page of the relation bound in it? -/
structure PagedSelect.Covers (select : PagedSelect) (node : Node κ) : Prop where
  relation : node.hasSay = true → node.aliasName ∈ select.aliases
  junction : ∀ junction, node.junction = some junction → junction.aliasName ∈ select.aliases

/-- The relation is joined inside the page of its junction just if it has a say. -/
theorem Node.innerJoin?_eq (node : Node κ) (on : String) :
    node.innerJoin? on =
      if node.hasSay = true then some ⟨node.table, node.aliasName, on⟩ else none := by
  rw [innerJoin?, hasSay]
  cases node.filter <;> cases node.orderBy <;> cases node.sortKey <;> rfl

namespace PagedSelect.Covers

variable {select : PagedSelect}

/-- A filter that was called was asked about a table that is covered. -/
theorem call {site : Site κ} (covers : select.Covers site.node) {parent : Option String}
    {strategy : Strategy} {callback : Callback} (member : callback ∈ site.callbacks parent strategy)
    (filters : callback.call.site = .filter ∨ callback.call.site = .junctionFilter) :
    ∃ aliasName ∈ select.aliases, callback.call.tables = [site.dialect.quote aliasName] := by
  obtain ⟨place, -, found⟩ := List.mem_filterMap.mp member
  rw [(Site.call_of_callback? found).1] at filters
  obtain rfl | rfl := filters
  · obtain ⟨filter, given, rfl⟩ := Option.map_eq_some_iff.mp found
    exact ⟨_, covers.relation (by simp [Node.hasSay, given]), rfl⟩
  · obtain ⟨junction, through, found⟩ := Option.bind_eq_some_iff.mp found
    obtain ⟨filter, -, rfl⟩ := Option.map_eq_some_iff.mp found
    exact ⟨_, covers.junction junction through, rfl⟩

end PagedSelect.Covers

/-! ## Fragments -/

theorem mem_of_mem_shown {text : String} {parts : List (Option String)}
    (member : text ∈ shown parts) : some text ∈ parts := by
  obtain ⟨part, listed, found⟩ := List.mem_filterMap.mp member
  rw [Option.filter_eq_some_iff] at found
  rwa [← found.1]

theorem Tie.scope_of_condition? {tie : Tie} {text : String}
    (found : tie.scope.bind PagedJoins.condition? = some text) : tie.scope = some text := by
  obtain ⟨scope, given, shown⟩ := Option.bind_eq_some_iff.mp found
  rw [given, (condition?_eq_some_iff.mp shown).1]

/-- The page of a fragment. -/
def Fragment.select? : Fragment → Option PagedSelect
  | firstPage select => some select
  | page _ select _ => some select
  | _ => none

/-- A page has the order and the seek of the paging, and for the rest what it is made of. -/
theorem Paging.select?_eq_some {paging : Paging} {table aliasName : String}
    {conditions : Conditions} {inner : Option InnerJoin} {select : PagedSelect}
    (paged : paging.select? table aliasName conditions inner = some select) :
    select.table = table ∧ select.aliasName = aliasName ∧ select.conditions = conditions ∧
      select.inner = inner ∧ paging.order? = some select.order ∧ paging.seek? = select.seek := by
  cases paging with
  | keyset page =>
      cases paged
      exact ⟨rfl, rfl, rfl, rfl, rfl, rfl⟩
  | offset page =>
      cases paged
      exact ⟨rfl, rfl, rfl, rfl, rfl, rfl⟩
  | unpaginated => cases paged

namespace Site

variable {site : Site κ} {paging : Paging} {select : PagedSelect} {conditions : Conditions}

theorem FilterAnswers.isSome {filter : Option (Filter κ)} {aliasName text : String}
    (answered : site.FilterAnswers filter aliasName (some text)) : filter.isSome = true := by
  cases filter with
  | none => cases answered
  | some filter => rfl

end Site

/-- The tags of a batch of posts by name, those that are neither hidden nor linked by a bot. The
order is that of the tags, and the page that of the junction. -/
def tagsByName : Node Unit where
  table := "tags"
  aliasName := "t"
  args := { first := some 3 }
  filter := some fun scope => .ok (some ("NOT " ++ scope.table ++ ".hidden"))
  orderBy := some [⟨"name", .asc⟩]
  junction := some {
    table := "post_tags"
    aliasName := "pt"
    filter := some fun scope => .ok (some ("NOT " ++ scope.table ++ ".by_bot"))
    batch := some {
      keys := ⟨⟨"post_id"⟩, ⟨"id"⟩⟩
      join := fun scope => .ok (scope.parent ++ ".tag_id = " ++ scope.child ++ ".id") } }

end PagedJoins
