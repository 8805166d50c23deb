import PagedJoins.Sql.Dialect
import PagedJoins.Text.Decimal

/-!
# Windows

The rows of an ordered select that are returned: how many are skipped, and how many are
taken at most.
-/

namespace PagedJoins

/-- The next count; the greatest count is its own successor. -/
def nextCount (n : UInt64) : UInt64 :=
  if n.toNat + 1 < UInt64.size then n + 1 else n

theorem toNat_nextCount (n : UInt64) :
    (nextCount n).toNat = if n.toNat + 1 < UInt64.size then n.toNat + 1 else n.toNat := by
  unfold nextCount
  split
  · rename_i fits
    exact (UInt64.toNat_add n 1).trans (Nat.mod_eq_of_lt fits)
  · rfl

/-- How many rows are taken. -/
inductive Limit where
  | all
  | rows (n : UInt64)
  deriving DecidableEq, Repr

/-- One row more, as far as counts go. -/
def Limit.plusOne : Limit → Limit
  | all => all
  | rows n => rows (nextCount n)

/-- A count in a statement. -/
def countText (n : UInt64) : String :=
  Text.decimal n.toNat

/-- The clause that delimits the rows; empty if the dialect needs none. -/
def Dialect.windowClause (dialect : Dialect) (limit : Limit) (offset : Option UInt64) :
    String :=
  match dialect.windowStyle with
  | .limit unlimited =>
    let count := match limit with
      | .all => unlimited
      | .rows n => countText n
    "LIMIT " ++ count ++ offset.elim "" fun m => " OFFSET " ++ countText m
  | .fetch =>
    match limit, offset with
    | .rows n, some m =>
      "OFFSET " ++ countText m ++ " ROWS FETCH NEXT " ++ countText n ++ " ROWS ONLY"
    | .rows n, none => "FETCH FIRST " ++ countText n ++ " ROWS ONLY"
    | .all, some m => "OFFSET " ++ countText m ++ " ROWS"
    | .all, none => ""
  | .offsetFetch =>
    let skip := "OFFSET " ++ countText (offset.getD 0) ++ " ROWS"
    match limit with
    | .all => skip
    | .rows n => skip ++ " FETCH NEXT " ++ countText n ++ " ROWS ONLY"

end PagedJoins
