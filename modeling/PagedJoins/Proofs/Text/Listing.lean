import Mathlib.Data.List.Basic

/-!
# Lists of items in a text

Items that are joined by a separator are read one by one. Each item must be read as itself in front
of whatever may stand behind it, and that is either a separator or what stands behind the whole
list; what the items look like does not matter beyond that.
-/

namespace PagedJoins.Text

variable {α : Type}

/-- The texts of some values, each behind a separator. -/
def separated (separator : String) (write : α → String) (values : List α) : List Char :=
  values.flatMap fun value => separator.toList ++ (write value).toList

variable {separator : String} {item : List Char → Option (α × List Char)} {write : α → String}
variable (Follows : List Char → Prop) {after : List Char}

theorem toList_intercalate_cons (first : String) (others : List α) :
    (separator.intercalate (first :: others.map write)).toList =
      first.toList ++ separated separator write others := by
  induction others generalizing first with
  | nil => simp [separated]
  | cons second others ih =>
      rw [List.map_cons, String.intercalate_cons_cons, String.toList_append,
        String.toList_append, ih (write second)]
      simp [separated]

end PagedJoins.Text
