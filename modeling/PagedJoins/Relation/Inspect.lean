import PagedJoins.Relation.Node
import PagedJoins.Text.Inspect
import PagedJoins.Binary.Layout

/-!
# Diagnostic form of relations

A diagnostic shows the data of a relation and, in place of its callbacks, whether or how
many there are.
-/

namespace PagedJoins

namespace Inspect

open Text (inspect)

/-- A record: its name, its fields, and `..` if it has more than are shown. -/
def record (name : String) (fields : List (String × String)) (hasMore : Bool := false) :
    String :=
  let shown := fields.map fun (field, value) => field ++ ": " ++ value
  let shown := if hasMore then shown ++ [".."] else shown
  name ++ " \x7b " ++ ", ".intercalate shown ++ " \x7d"

/-- A constructor with one argument. -/
def applied (name argument : String) : String :=
  name ++ "(" ++ argument ++ ")"

/-- An optional value. -/
def optional {α : Type} (render : α → String) : Option α → String
  | none => "None"
  | some value => applied "Some" (render value)

/-- A truth value. -/
def bool (b : Bool) : String :=
  if b then "true" else "false"

/-- A list. -/
def list {α : Type} (render : α → String) (values : List α) : String :=
  "[" ++ ", ".intercalate (values.map render) ++ "]"

/-- A count. -/
def count (n : UInt64) : String :=
  Text.decimal n.toNat

/-- A value. -/
def value : Value → String
  | .null => "Null"
  | .bool b => applied "Bool" (bool b)
  | .integer width n => applied width.name (Text.signedDecimal n.val)
  | .float x => applied "Float" (x.render .diagnostic)
  | .double x => applied "Double" (x.render .diagnostic)
  | .decimal s => applied "Decimal" (inspect s)
  | .text s => applied "Text" (inspect s)

/-- Named values. -/
def bindings (bindings : Bindings) : String :=
  let shown := bindings.toList.map fun (name, v) => inspect name ++ ": " ++ value v
  "\x7b" ++ ", ".intercalate shown ++ "\x7d"

/-- Arguments. -/
def args (args : Args) : String :=
  record "Args"
    [("first", optional count args.first), ("last", optional count args.last),
      ("after", optional inspect args.after), ("before", optional inspect args.before),
      ("filters", bindings args.filters)]

/-- A sort column. -/
def sortColumn (sort : SortColumn) : String :=
  let direction := match sort.direction with
    | .asc => "Asc"
    | .desc => "Desc"
  record "OrderColumn" [("column", inspect sort.column), ("direction", direction)]

/-- A column reference. -/
def columnRef (ref : ColumnRef) : String :=
  record "ColumnRef" [("name", inspect ref.name)]

/-- The fields of batch keys. -/
def batchKeys (keys : BatchKeys) : List (String × String) :=
  [("this_key", columnRef keys.thisKey), ("parent_key", columnRef keys.parentKey)]

/-- A junction. -/
def junction {κ : Type} (junction : Junction κ) : String :=
  record "Junction"
    [("sql_table", inspect junction.table), ("alias", inspect junction.aliasName),
      ("filter", bool junction.filter.isSome),
      ("order_by", optional (list sortColumn) junction.orderBy),
      ("sort_key", optional (list sortColumn) junction.sortKey),
      ("sql_joins", Text.decimal junction.joins.length),
      ("sql_batch",
        optional (fun batch => record "JunctionBatch" (batchKeys batch.keys) true)
          junction.batch)]

/-- A relation. -/
def node {κ : Type} (node : Node κ) : String :=
  record "RelationNode"
    [("name", inspect node.table), ("alias", inspect node.aliasName), ("args", args node.args),
      ("filter", bool node.filter.isSome), ("sql_join", bool node.join.isSome),
      ("order_by", optional (list sortColumn) node.orderBy),
      ("sort_key", optional (list sortColumn) node.sortKey),
      ("junction", optional junction node.junction),
      ("sql_batch", optional (fun keys => record "SqlBatch" (batchKeys keys)) node.batch)]

/-- The scope of a filter; the context is not shown. -/
def filterScope {κ : Type} (scope : FilterScope κ) : String :=
  record "PredicateScope"
    [("table", inspect scope.table), ("args", args scope.relation.args),
      ("node", inspect scope.relation.aliasName)] true

/-- The scope of a join condition; the context is not shown. -/
def joinScope {κ : Type} (scope : JoinScope κ) : String :=
  record "JoinScope"
    [("parent", inspect scope.parent), ("child", inspect scope.child),
      ("args", args scope.relation.args), ("node", inspect scope.relation.aliasName)] true

end Inspect

end PagedJoins
