/-!
# Comparisons of terms

Boolean expressions over comparisons of one thing with another. What is compared is left
open: the same expression is printed when the things are texts and evaluated when they
are values.
-/

namespace PagedJoins

/-- A comparison operator. -/
inductive Comparator where
  | less
  | equal
  | greater
  deriving DecidableEq, Repr

/-- The symbol of an operator. -/
def Comparator.symbol : Comparator → String
  | less => "<"
  | equal => "="
  | greater => ">"

/-- A boolean expression that compares things of type `γ` with things of type `δ`. -/
inductive Condition (γ δ : Type) where
  | compare (left : γ) (operator : Comparator) (right : δ)
  /-- A comparison of two rows, by the first place in which they differ. -/
  | compareRows (left : List γ) (operator : Comparator) (right : List δ)
  | and (left right : Condition γ δ)
  | or (left right : Condition γ δ)
  deriving Repr

namespace Condition

/-- The expression over other things. -/
def map {γ δ γ' δ' : Type} (f : γ → γ') (g : δ → δ') : Condition γ δ → Condition γ' δ'
  | compare left operator right => compare (f left) operator (g right)
  | compareRows left operator right => compareRows (left.map f) operator (right.map g)
  | and left right => and (left.map f g) (right.map f g)
  | or left right => or (left.map f g) (right.map f g)

/-- A row as it stands in a statement. -/
def row (terms : List String) : String :=
  "(" ++ ", ".intercalate terms ++ ")"

/-- The expression as it stands in a statement: a connective is put in parentheses. -/
def render : Condition String String → String
  | compare left operator right => left ++ " " ++ operator.symbol ++ " " ++ right
  | compareRows left operator right =>
    row left ++ " " ++ operator.symbol ++ " " ++ row right
  | and left right => "(" ++ left.render ++ " AND " ++ right.render ++ ")"
  | or left right => "(" ++ left.render ++ " OR " ++ right.render ++ ")"

end Condition

end PagedJoins
