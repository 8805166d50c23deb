import PagedJoins.Sql.Window

/-!
# Settings

What a request cannot choose: the dialect, what becomes of a page whose size is not
given, and whether one row more than asked for is fetched, to see if there is one.
-/

namespace PagedJoins

/-- What becomes of a page whose size is not given. -/
inductive Unbounded where
  /-- It holds all rows. -/
  | all
  /-- It holds at most so many, as does any other page. -/
  | max (n : UInt64)
  /-- It is refused. -/
  | reject
  deriving DecidableEq, Repr

/-- The settings of a compilation. -/
structure Config where
  dialect : Dialect := .postgres
  unbounded : Unbounded := .all
  lookahead : Bool := false
  deriving DecidableEq, Repr

namespace Config

/-- How many rows a page has, before a further one is looked for. -/
def pageSize (config : Config) (requested : Option UInt64) : Except ConfigFault Limit :=
  match requested, config.unbounded with
  | some n, .max most => .ok (.rows (min n most))
  | some n, _ => .ok (.rows n)
  | none, .all => .ok .all
  | none, .max most => .ok (.rows most)
  | none, .reject => .error .noPageSize

/-- How many rows are fetched for a page. -/
def pageLimit (config : Config) (requested : Option UInt64) : Except ConfigFault Limit := do
  let size ← config.pageSize requested
  return if config.lookahead then size.plusOne else size

end Config

end PagedJoins
