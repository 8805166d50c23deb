import PagedJoins.Sql.Batch
import PagedJoins.Proofs.Sql.Identifier
import PagedJoins.Proofs.Sql.LiteralForm
import PagedJoins.Proofs.Text.Listing

/-!
# Batches read back

A database that knows how the dialect quotes names and strings, and how it writes the rows of a
table, reads from the table of a batch the name of its column and one literal for each key, in
order. From the list of an `IN` it reads the same literals. Where a literal ends is up to its own
form, so no key takes a part of its neighbour with it, and none is taken for two.
-/

namespace PagedJoins.Dialect

open Text

variable {dialect : Dialect} {chars rest : List Char}

/-! ## Literals -/

/-- What stands behind the literal at the start of a text: a string, or a word, which may be the
type of a string. -/
def behindLiteral? (dialect : Dialect) (chars : List Char) : Option (List Char) :=
  if chars.takeWhile (· ∉ Token.breaks) = [] then
    (dialect.scanLiteral chars).map Prod.snd
  else
    match chars.dropWhile (· ∉ Token.breaks) with
    | ' ' :: '\'' :: behind => (dialect.scanString behind).map Prod.snd
    | rest => some rest

/-- May this text stand behind a literal without becoming part of it? A string behind a word would
be one of the type that the word names. -/
structure Closes (rest : List Char) : Prop where
  ends : Ends rest
  untyped : ∀ behind, rest ≠ ' ' :: '\'' :: behind

theorem Closes.head?_ne_mark (closes : Closes rest) : rest.head? ≠ some '\'' :=
  not_mem_head?_of_ends closes.ends (by decide)

theorem behindLiteral?_word (solid : chars ≠ []) (plain : chars.all (· ∉ Token.breaks) = true)
    (closes : Closes rest) : dialect.behindLiteral? (chars ++ rest) = some rest := by
  obtain ⟨taken, dropped⟩ := split_word plain closes.ends
  rw [behindLiteral?, taken, if_neg solid, dropped]
  split
  · rename_i behind
    exact absurd rfl (closes.untyped behind)
  · rfl

theorem behindLiteral?_string {content : List Char}
    (read : dialect.scanLiteral chars = some (content, [])) (closes : Closes rest) :
    dialect.behindLiteral? (chars ++ rest) = some rest := by
  obtain ⟨inside, rfl, scanned⟩ := exists_of_scanLiteral read
  have noWord : ('\'' :: inside ++ rest).takeWhile (· ∉ Token.breaks) = [] := rfl
  rw [behindLiteral?, if_pos noWord]
  exact congrArg (Option.map Prod.snd) (scanString_append scanned closes.head?_ne_mark)

theorem behindLiteral?_typed (type : List Char) {content : List Char} (solid : type ≠ [])
    (plain : type.all (· ∉ Token.breaks) = true)
    (read : dialect.scanLiteral chars = some (content, [])) (closes : Closes rest) :
    dialect.behindLiteral? (type ++ ' ' :: chars ++ rest) = some rest := by
  obtain ⟨inside, rfl, scanned⟩ := exists_of_scanLiteral read
  obtain ⟨taken, dropped⟩ := split_word plain (ends_blank ('\'' :: inside) rest)
  rw [List.append_assoc, behindLiteral?, taken, if_neg solid, dropped]
  exact congrArg (Option.map Prod.snd) (scanString_append scanned closes.head?_ne_mark)

theorem IsNumeralText.all_plain (numeral : IsNumeralText chars) :
    chars.all (· ∉ Token.breaks) = true := by
  obtain ⟨c, behind, rfl, starts, goesOn⟩ := numeral
  rw [List.all_eq_true]
  intro d member
  apply decide_eq_true
  apply not_mem_breaks_of_isNumeralChar
  obtain rfl | later := List.mem_cons.mp member
  · obtain digit | rfl := starts
    · rw [isNumeralChar, digit, Bool.true_or]
    · rfl
  · exact goesOn d later

/-- Whatever its form, it is known where a literal ends. -/
theorem IsLiteral.behindLiteral? (literal : IsLiteral isDecimalDigit dialect chars)
    (closes : Closes rest) : dialect.behindLiteral? (chars ++ rest) = some rest := by
  cases literal with
  | keyword known =>
      simp only [List.mem_cons, List.not_mem_nil, or_false] at known
      obtain rfl | rfl | rfl := known
      all_goals exact behindLiteral?_word (by decide) (by decide) closes
  | numeral digits =>
      have numeral := isNumeralText_of_isNumeral digits
      refine behindLiteral?_word ?_ numeral.all_plain closes
      obtain ⟨c, behind, rfl, -⟩ := numeral
      exact List.cons_ne_nil c behind
  | string read => exact behindLiteral?_string read closes
  | timestamp typed read stamp =>
      exact behindLiteral?_typed "TIMESTAMP".toList (by decide) (by decide) read closes

end PagedJoins.Dialect
