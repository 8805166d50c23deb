import PagedJoins.Sql.Batch
import PagedJoins.Sql.PagedSelect
import PagedJoins.Compile.Link

/-!
# Fragments

A statement is a sequence of fragments, each of which brings in one table. A fragment is
a structure of what it is made of; its text is worked out from that at the end.
-/

namespace PagedJoins

/-- The kinds of fragments. -/
inductive FragmentKind where
  | derived
  | lateral
  | values
  | join
  deriving DecidableEq, Repr

/-- One table of a statement. -/
inductive Fragment where
  /-- A page of a table, as the first table. -/
  | firstPage (select : PagedSelect)
  /-- All rows of a table that meet a condition, as the first table. -/
  | firstTable (source aliasName filter : String)
  /-- A page of a table, joined to its parent. -/
  | page (kind : JoinKind) (select : PagedSelect) (on : String)
  /-- The keys of a batch, as the first table. -/
  | batch (column : String) (keys : List Value)
  /-- A table joined on a condition. -/
  | table (join : Join)
  deriving DecidableEq, Repr

namespace Fragment

/-- The kind of a fragment. -/
def kind : Fragment → FragmentKind
  | firstPage _ | firstTable .. => .derived
  | page .. => .lateral
  | batch .. => .values
  | table _ => .join

/-- The alias that a fragment brings in. -/
def aliasName : Fragment → String
  | firstPage select => select.aliasName
  | firstTable _ aliasName _ => aliasName
  | page _ select _ => select.aliasName
  | batch .. => batchAlias
  | table join => join.aliasName

/-- Is the fragment a page? -/
def isPaginated : Fragment → Bool
  | firstPage _ | page .. => true
  | _ => false

/-- The text of a fragment. -/
def render (dialect : Dialect) : Fragment → String
  | firstPage select => select.standalone dialect
  | firstTable source aliasName filter => dialect.plainTable source aliasName filter
  | page kind select on => select.attached dialect kind on
  | batch column keys => dialect.valuesTable column keys
  | table join => join.render dialect

end Fragment

/-- How a page is addressed. -/
inductive PageMode where
  | offset
  | keyset
  deriving DecidableEq, Repr

/-- What the reader of a page's rows has to know of it. -/
structure PageInfo where
  mode : PageMode
  limit : Limit
  offset : Option UInt64
  backward : Bool
  deriving DecidableEq, Repr

/-- What there is to know of a page. -/
def Paging.info? : Paging → Option PageInfo
  | .keyset page => some ⟨.keyset, page.limit, none, page.backward⟩
  | .offset page => some ⟨.offset, page.limit, page.offset, false⟩
  | .unpaginated => none

/-- A compiled relation. -/
structure Compiled where
  strategy : Strategy
  page : Option PageInfo
  fragments : List Fragment
  deriving DecidableEq, Repr

/-- The texts of some fragments on lines of their own. -/
def renderFragments (dialect : Dialect) (fragments : List Fragment) : String :=
  "\n".intercalate (fragments.map (·.render dialect))

/-- The text of a compiled relation. -/
def Compiled.render (dialect : Dialect) (compiled : Compiled) : String :=
  renderFragments dialect compiled.fragments

/-- The fragments of several compiled relations, in order. -/
def allFragments (nodes : List Compiled) : List Fragment :=
  nodes.flatMap (·.fragments)

end PagedJoins
