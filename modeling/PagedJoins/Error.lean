/-!
# Errors

Every refusal of the library has a cause, and a cause has one kind and one wording. A
callback may report errors of its own, of any kind and in its own words.
-/

namespace PagedJoins

/-- The kinds of configuration errors. -/
inductive ConfigKind where
  | unknownDialect
  | unmatchedStrategy
  | ambiguousStrategy
  | emptyBatchScope
  | missingBatchScope
  | contradictoryPaging
  | invalidPagination
  deriving DecidableEq, Repr

/-- Why a relation or a setting cannot be compiled. -/
inductive ConfigFault where
  | unknownDialect (name : String)
  /-- A relation with a junction also has links of its own. -/
  | linkBesideJunction
  | junctionJoinsAndBatch
  | joinAndBatch
  | joinWithoutParent
  | childWithoutLink
  | junctionWithoutLink
  | junctionWithOneJoin
  | noBatchScope
  | emptyBatchScope
  | sortKeyAndOrder
  | twoSortKeys
  | twoOrders
  | noSortKey
  | emptySortKey
  | firstAndLast
  | beforeWithFirst
  | afterWithLast
  | afterAndBefore
  | noPageSize
  | noOrder
  | backwardOffset
  /-- A callback's own error. -/
  | reported (kind : ConfigKind) (message : String)
  deriving DecidableEq, Repr

namespace ConfigFault

/-- The kind of a cause. -/
def kind : ConfigFault → ConfigKind
  | unknownDialect _ => .unknownDialect
  | linkBesideJunction | junctionJoinsAndBatch | joinAndBatch => .ambiguousStrategy
  | joinWithoutParent | childWithoutLink | junctionWithoutLink | junctionWithOneJoin =>
    .unmatchedStrategy
  | noBatchScope => .missingBatchScope
  | emptyBatchScope => .emptyBatchScope
  | sortKeyAndOrder | twoSortKeys | twoOrders => .contradictoryPaging
  | noSortKey | emptySortKey | firstAndLast | beforeWithFirst | afterWithLast
  | afterAndBefore | noPageSize | noOrder | backwardOffset => .invalidPagination
  | reported kind _ => kind

/-- The wording of a cause. -/
def message : ConfigFault → String
  | unknownDialect name => "unknown dialect '" ++ name ++ "'"
  | linkBesideJunction => "junction relation also carries its own sql_join or sql_batch"
  | junctionJoinsAndBatch => "junction has both sql_joins and sql_batch"
  | joinAndBatch => "node has both sql_join and sql_batch"
  | joinWithoutParent => "joined relation has no parent"
  | childWithoutLink => "child relation has no link to its parent"
  | junctionWithoutLink => "junction has neither sql_joins nor sql_batch"
  | junctionWithOneJoin => "junction needs at least two sql_joins"
  | noBatchScope => "batched relation compiled without a batch scope"
  | emptyBatchScope => "batch scope is empty"
  | sortKeyAndOrder => "both a sort_key and an order_by were supplied"
  | twoSortKeys => "node and junction both carry a sort_key"
  | twoOrders => "node and junction both carry an order_by"
  | noSortKey => "keyset pagination requires a sort_key"
  | emptySortKey => "sort_key must name at least one column"
  | firstAndLast => "`first` and `last` cannot be combined"
  | beforeWithFirst => "`before` cannot be used with `first`"
  | afterWithLast => "`after` cannot be used with `last`"
  | afterAndBefore => "`after` and `before` cannot be combined"
  | noPageSize => "paginated relation requires `first` or `last`"
  | noOrder => "offset pagination requires an order_by"
  | backwardOffset => "`last` and `before` are not supported with offset pagination"
  | reported _ message => message

end ConfigFault

/-- The kinds of cursor errors. -/
inductive CursorKind where
  | malformed
  | unknownColumn
  | missingColumn
  | nonFinite
  deriving DecidableEq, Repr

/-- Why a cursor cannot be read, written or used. -/
inductive CursorFault where
  | notBase64
  /-- The bytes are no JSON object of values. -/
  | badPayload
  | duplicateColumn (column : String)
  | unknownColumn (column : String)
  | missingColumn (column : String)
  | nonFinite (column : String)
  | offsetNotBase64
  | offsetNotText
  | notOffset (text : String)
  /-- A callback's own error. -/
  | reported (kind : CursorKind) (message : String)
  deriving DecidableEq, Repr

namespace CursorFault

/-- The kind of a cause. -/
def kind : CursorFault → CursorKind
  | notBase64 | badPayload | duplicateColumn _ | offsetNotBase64 | offsetNotText
  | notOffset _ => .malformed
  | unknownColumn _ => .unknownColumn
  | missingColumn _ => .missingColumn
  | nonFinite _ => .nonFinite
  | reported kind _ => kind

/-- The wording of a cause. -/
def message : CursorFault → String
  | notBase64 => "cursor is not valid base64"
  | badPayload => "cursor payload"
  | duplicateColumn column =>
    "cursor payload: duplicate cursor column \"" ++ column ++ "\""
  | unknownColumn column =>
    "cursor column \"" ++ column ++ "\" is not part of the sort key"
  | missingColumn column => "cursor lacks sort key column \"" ++ column ++ "\""
  | nonFinite column => "cursor column \"" ++ column ++ "\" holds a non-finite float"
  | offsetNotBase64 => "offset cursor is not valid base64"
  | offsetNotText => "offset cursor is not UTF-8"
  | notOffset text => "not an offset cursor: '" ++ text ++ "'"
  | reported _ message => message

end CursorFault

/-- The places of a relation where a callback can be attached. -/
inductive Hook where
  | filter
  | join
  | junctionFilter
  | junctionJoin
  deriving DecidableEq, Repr

/-- The wording of a hook. -/
def Hook.name : Hook → String
  | filter => "filter"
  | join => "sql_join"
  | junctionFilter => "junction filter"
  | junctionJoin => "junction join"

/-- An error of the library or of a callback. -/
inductive Error where
  | config (fault : ConfigFault) (node : Option String)
  | cursor (fault : CursorFault)
  /-- A callback of the named relation failed; its own error is kept as it is. -/
  | callback (node : String) (hook : Hook) (source : Error)
  | serialization (message : String)
  | custom (message : String)
  deriving DecidableEq, Repr

namespace Error

/-- The text of an error. -/
def message : Error → String
  | config fault none => "Configuration error: " ++ fault.message
  | config fault (some node) =>
    "Configuration error: " ++ fault.message ++ " (node '" ++ node ++ "')"
  | cursor fault => "Cursor error: " ++ fault.message
  | callback node hook source =>
    "Callback error: " ++ hook.name ++ " callback of node '" ++ node ++ "' failed: " ++
      source.message
  | serialization message => "Serialization error: " ++ message
  | custom message => message

/-- The texts of an error and of the errors behind it, the outermost first. -/
def chain (error : Error) : List String :=
  error.message ::
    match error with
    | callback _ _ source => source.chain
    | _ => []

/-- The kind of a configuration error. -/
def configKind? : Error → Option ConfigKind
  | config fault _ => some fault.kind
  | _ => none

/-- The kind of a cursor error. -/
def cursorKind? : Error → Option CursorKind
  | cursor fault => some fault.kind
  | _ => none

/-- Does the error refuse the whole request and not only a relation? -/
def isFatal : Error → Bool
  | config .. | cursor _ => true
  | _ => false

end Error

end PagedJoins
