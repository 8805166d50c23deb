/-!
# Quoted text

A quoted text stands between an opening and a closing character. Inside it the closing
character is written twice, so the first closing character without a twin ends the
text, whatever the text holds.
-/

namespace PagedJoins.Text

/-- The text with every `quote` written twice. -/
def doubled (quote : Char) : List Char → List Char
  | [] => []
  | c :: rest =>
    if c = quote then quote :: quote :: doubled quote rest else c :: doubled quote rest

/-- Doubling a character adds to a text. -/
theorem length_le_doubled (quote : Char) (chars : List Char) :
    chars.length ≤ (doubled quote chars).length := by
  induction chars with
  | nil => exact Nat.le_refl _
  | cons c rest ih =>
    rw [doubled]
    split
    · simpa using Nat.le_succ_of_le ih
    · simpa using ih

/-- The text between `opening` and `closing`, with `closing` doubled inside. -/
def quoted (opening closing : Char) (text : String) : String :=
  String.ofList (opening :: doubled closing text.toList ++ [closing])

/-- Read up to the first `quote` that has no twin: the text before it, with twins taken
as one, and what follows it. There is no answer if no such `quote` comes. -/
def readDoubled (quote : Char) : List Char → Option (List Char × List Char)
  | [] => none
  | c :: rest =>
    if c = quote then
      match rest with
      | d :: rest' =>
        if d = quote then
          (readDoubled quote rest').map fun (text, after) => (quote :: text, after)
        else
          some ([], d :: rest')
      | [] => some ([], [])
    else
      (readDoubled quote rest).map fun (text, after) => (c :: text, after)

/-- Read a quoted text at the start of `chars`. -/
def readQuoted (opening closing : Char) : List Char → Option (List Char × List Char)
  | [] => none
  | c :: rest => if c = opening then readDoubled closing rest else none

theorem readDoubled_cons_of_ne {quote c : Char} (differs : c ≠ quote) (rest : List Char) :
    readDoubled quote (c :: rest) =
      (readDoubled quote rest).map fun (text, after) => (c :: text, after) := by
  rw [readDoubled.eq_def]
  simp [differs]

/-- Doubling is undone by reading, and nothing behind the text is consumed. -/
theorem readDoubled_doubled (quote : Char) (text after : List Char)
    (ends : after.head? ≠ some quote) :
    readDoubled quote (doubled quote text ++ quote :: after) = some (text, after) := by
  induction text with
  | nil =>
    cases after with
    | nil => simp [doubled, readDoubled]
    | cons d after =>
      have differs : d ≠ quote := fun same => ends (by simp [same])
      simp [doubled, readDoubled, differs]
  | cons c text ih =>
    by_cases same : c = quote
    · subst same
      simp [doubled, readDoubled, ih]
    · simp [doubled, same, readDoubled_cons_of_ne same, ih]

end PagedJoins.Text
