import PagedJoins.Sql.Condition
import PagedJoins.Sql.Identifier
import PagedJoins.Sql.Literal

/-!
# Tokens

How a database cuts the text of a condition in pieces: quoted names and strings, which may
hold anything between their marks, and outside them operators, punctuation and words. What
is said here of a piece of text holds wherever it stands, as long as what follows cannot be
taken for more of it.
-/

namespace PagedJoins

/-- A piece of a condition. Names and strings are known by what they stand for. -/
inductive Token where
  | opening
  | closing
  | comma
  | dot
  | and
  | or
  | operator (operator : Comparator)
  | name (name : String)
  | string (content : String)
  /-- A keyword or a numeral. -/
  | word (text : String)
  deriving DecidableEq, Repr

namespace Token

/-- A word by itself: one of the connectives, or any other. -/
def ofWord (word : List Char) : Token :=
  if word = ['A', 'N', 'D'] then .and
  else if word = ['O', 'R'] then .or
  else .word (String.ofList word)

/-- The characters that end a word. -/
def breaks : List Char :=
  [' ', '(', ')', ',', '<', '=', '>', '\'']

end Token

namespace Dialect

open Token

/-- Read a string behind its opening mark. A mark inside is written twice; in MySQL and MariaDB,
where a backslash takes the meaning of the next character, so is a backslash, and no other use of it
is known here. -/
def readString (dialect : Dialect) : List Char → Option (List Char × List Char)
  | [] => none
  | c :: rest =>
    if c = '\'' then
      match rest with
      | '\'' :: rest =>
        (dialect.readString rest).map fun (content, after) => ('\'' :: content, after)
      | rest => some ([], rest)
    else if c = '\\' ∧ (dialect = mySql ∨ dialect = mariaDb) then
      match rest with
      | '\\' :: rest =>
        (dialect.readString rest).map fun (content, after) => ('\\' :: content, after)
      | _ => none
    else
      (dialect.readString rest).map fun (content, after) => (c :: content, after)

/-- Read the token that starts with a character. -/
def readToken (dialect : Dialect) (c : Char) (rest : List Char) :
    Option (Token × List Char) :=
  if c = '(' then some (opening, rest)
  else if c = ')' then some (closing, rest)
  else if c = ',' then some (comma, rest)
  else if c = '.' then some (dot, rest)
  else if c = '<' then some (operator .less, rest)
  else if c = '=' then some (operator .equal, rest)
  else if c = '>' then some (operator .greater, rest)
  else if c = '\'' then
    (dialect.readString rest).map fun (content, after) => (string (String.ofList content), after)
  else if c = dialect.quoteMarks.1 then
    (Text.readDoubled dialect.quoteMarks.2 rest).map fun (content, after) =>
      (Token.name (String.ofList content), after)
  else
    some (ofWord (c :: rest.takeWhile (· ∉ breaks)), rest.dropWhile (· ∉ breaks))

/-- Read all tokens of a text. -/
def tokens? (dialect : Dialect) : List Char → Option (List Token)
  | [] => some []
  | c :: chars =>
    if c = ' ' then
      dialect.tokens? chars
    else
      match dialect.readToken c chars with
      | some (token, rest) =>
        -- A token takes its first character at least.
        if rest.length ≤ chars.length then (dialect.tokens? rest).map (token :: ·) else none
      | none => none
termination_by chars => chars.length

/-- May this text stand behind a name, a string or a word without becoming part of it? -/
def Ends (rest : List Char) : Prop :=
  ∀ c ∈ rest.head?, c = ' ' ∨ c = ',' ∨ c = ')'

/-- Is the text read as these tokens, wherever it stands? -/
def Spells (dialect : Dialect) (text : List Char) (tokens : List Token) : Prop :=
  ∀ rest, Ends rest →
    dialect.tokens? (text ++ rest) = (dialect.tokens? rest).map (tokens ++ ·)

variable {dialect : Dialect} {text other : List Char} {tokens others : List Token}

theorem ends_nil : Ends [] := by
  intro c starts
  cases starts

theorem ends_blank (text rest : List Char) : Ends (' ' :: text ++ rest) := by
  intro c starts
  exact .inl (Option.some.inj starts).symm

theorem ends_comma (text rest : List Char) : Ends (',' :: text ++ rest) := by
  intro c starts
  exact .inr (.inl (Option.some.inj starts).symm)

theorem ends_closing (text rest : List Char) : Ends (')' :: text ++ rest) := by
  intro c starts
  exact .inr (.inr (Option.some.inj starts).symm)

theorem tokens?_blank (rest : List Char) :
    dialect.tokens? (' ' :: rest) = dialect.tokens? rest := by
  rw [tokens?, if_pos rfl]

theorem tokens?_token {c : Char} {chars rest : List Char} {token : Token} (notBlank : c ≠ ' ')
    (read : dialect.readToken c chars = some (token, rest))
    (shorter : rest.length ≤ chars.length) :
    dialect.tokens? (c :: chars) = (dialect.tokens? rest).map (token :: ·) := by
  rw [tokens?, if_neg notBlank, read]
  simp only [shorter, if_true]

/-! ## Putting texts together -/

theorem Spells.blank (spells : dialect.Spells text tokens) :
    dialect.Spells (' ' :: text) tokens := by
  intro rest ends
  rw [List.cons_append, tokens?_blank]
  exact spells rest ends

/-- Two texts follow each other if the second does not go on with the first. -/
theorem Spells.append (spells : dialect.Spells text tokens)
    (spells' : dialect.Spells other others) (starts : ∀ rest, Ends (other ++ rest)) :
    dialect.Spells (text ++ other) (tokens ++ others) := by
  intro rest ends
  rw [List.append_assoc, spells (other ++ rest) (starts rest), spells' rest ends, Option.map_map]
  congr 1
  funext later
  exact (List.append_assoc ..).symm

theorem Spells.cons {c : Char} {token : Token} (spells : dialect.Spells text tokens)
    (notBlank : c ≠ ' ') (read : ∀ rest, dialect.readToken c rest = some (token, rest)) :
    dialect.Spells (c :: text) (token :: tokens) := by
  intro rest ends
  rw [List.cons_append, tokens?_token notBlank (read _) (Nat.le_refl _), spells rest ends,
    Option.map_map]
  rfl

/-! ## Texts of one token -/

theorem not_mem_head?_of_ends {c : Char} {rest : List Char} (ends : Ends rest)
    (other : c ≠ ' ' ∧ c ≠ ',' ∧ c ≠ ')') : rest.head? ≠ some c := by
  intro starts
  rcases ends c starts with same | same | same
  · exact other.1 same
  · exact other.2.1 same
  · exact other.2.2 same

/-- The databases that read escapes are those whose strings are written with them. -/
theorem escapesBackslash_iff :
    dialect.escapesBackslash = true ↔ dialect = mySql ∨ dialect = mariaDb := by
  cases dialect <;> decide

theorem escapeString_eq (content : List Char) :
    dialect.escapeString content =
      if dialect = mySql ∨ dialect = mariaDb then Text.doubled '\\' (Text.doubled '\'' content)
      else Text.doubled '\'' content := by
  simp only [escapeString, escapesBackslash_iff]

/-- A character of a string inside the quotes. -/
def escapeChar (dialect : Dialect) (c : Char) : List Char :=
  if c = '\'' ∨ (c = '\\' ∧ (dialect = mySql ∨ dialect = mariaDb)) then [c, c] else [c]

theorem escapeString_cons (c : Char) (content : List Char) :
    dialect.escapeString (c :: content) = dialect.escapeChar c ++ dialect.escapeString content := by
  by_cases escapes : dialect = mySql ∨ dialect = mariaDb
  · by_cases mark : c = '\''
    · subst mark
      simp [escapeString_eq, escapeChar, Text.doubled, escapes]
    · by_cases backslash : c = '\\' <;>
        simp [escapeString_eq, escapeChar, Text.doubled, escapes, mark, backslash]
  · by_cases mark : c = '\'' <;>
      simp [escapeString_eq, escapeChar, Text.doubled, escapes, mark]

theorem readString_escapeChar (c : Char) (rest : List Char) :
    dialect.readString (dialect.escapeChar c ++ rest) =
      (dialect.readString rest).map fun (content, after) => (c :: content, after) := by
  by_cases mark : c = '\''
  · subst mark
    simp [escapeChar, readString]
  · by_cases escapes : c = '\\' ∧ (dialect = mySql ∨ dialect = mariaDb)
    · simp [escapeChar, readString, escapes]
    · have plain : dialect.escapeChar c = [c] :=
        if_neg fun doubled => doubled.elim mark escapes
      rw [plain, List.singleton_append, readString.eq_def]
      simp only [mark, escapes, if_false]

theorem readString_mark {rest : List Char} (ends : rest.head? ≠ some '\'') :
    dialect.readString ('\'' :: rest) = some ([], rest) := by
  cases rest with
  | nil => rfl
  | cons c rest =>
      have differs : c ≠ '\'' := fun same => ends (congrArg some same)
      rw [readString.eq_def]
      simp only [if_true]
      split
      · rename_i same
        exact absurd (List.cons.inj same).1 differs
      · rfl

/-- A string literal gives its content back, if no further mark follows. -/
theorem readString_escapeString (content : List Char) {rest : List Char}
    (ends : rest.head? ≠ some '\'') :
    dialect.readString (dialect.escapeString content ++ '\'' :: rest) = some (content, rest) := by
  induction content with
  | nil =>
      have empty : dialect.escapeString [] = [] := by
        rw [escapeString_eq]
        exact ite_self _
      rw [empty, List.nil_append, readString_mark ends]
  | cons c content ih =>
      rw [escapeString_cons, List.append_assoc, readString_escapeChar, ih]
      rfl

theorem length_le_behind (before : List Char) (c : Char) (rest : List Char) :
    rest.length ≤ (before ++ c :: rest).length := by
  rw [List.length_append, List.length_cons]
  exact Nat.le_trans (Nat.le_succ _) (Nat.le_add_left ..)

theorem spells_stringLiteral (content : List Char) :
    dialect.Spells (dialect.stringLiteral content).toList [.string (String.ofList content)] := by
  intro rest ends
  have read : dialect.readString (dialect.escapeString content ++ '\'' :: rest) =
      some (content, rest) :=
    readString_escapeString content (not_mem_head?_of_ends ends (by decide))
  have shape : (dialect.stringLiteral content).toList ++ rest =
      '\'' :: (dialect.escapeString content ++ '\'' :: rest) := by
    simp [stringLiteral]
  have token : dialect.readToken '\'' (dialect.escapeString content ++ '\'' :: rest) =
      some (.string (String.ofList content), rest) := by
    simp [readToken, read]
  rw [shape, tokens?_token (by decide) token (length_le_behind ..)]
  rfl

theorem tokens?_quote (name : String) {rest : List Char}
    (ends : rest.head? ≠ some dialect.quoteMarks.2) :
    dialect.tokens? ((dialect.quote name).toList ++ rest) =
      (dialect.tokens? rest).map (.name name :: ·) := by
  have shape : (dialect.quote name).toList ++ rest = dialect.quoteMarks.1 ::
      (Text.doubled dialect.quoteMarks.2 name.toList ++ dialect.quoteMarks.2 :: rest) := by
    simp [quote, Text.quoted]
  have notBlank : dialect.quoteMarks.1 ≠ ' ' := by
    cases dialect <;> decide
  have token : dialect.readToken dialect.quoteMarks.1
      (Text.doubled dialect.quoteMarks.2 name.toList ++ dialect.quoteMarks.2 :: rest) =
        some (.name name, rest) := by
    have read := Text.readDoubled_doubled dialect.quoteMarks.2 name.toList rest ends
    cases dialect <;> simp only [quoteMarks] at read ⊢ <;> simp [readToken, quoteMarks, read]
  rw [shape, tokens?_token notBlank token (length_le_behind ..)]

theorem spells_qualify (aliasName column : String) :
    dialect.Spells (dialect.qualify aliasName column).toList
      [.name aliasName, .dot, .name column] := by
  intro rest ends
  have shape : (dialect.qualify aliasName column).toList ++ rest =
      (dialect.quote aliasName).toList ++ '.' :: ((dialect.quote column).toList ++ rest) := by
    simp [qualify]
  have dotEnds : ('.' :: ((dialect.quote column).toList ++ rest)).head? ≠
      some dialect.quoteMarks.2 := by
    rw [List.head?_cons]
    cases dialect <;> decide
  have restEnds : rest.head? ≠ some dialect.quoteMarks.2 := by
    apply not_mem_head?_of_ends ends
    cases dialect <;> decide
  have dot : ∀ chars, dialect.readToken '.' chars = some (.dot, chars) := by
    intro chars
    rfl
  rw [shape, tokens?_quote aliasName dotEnds, tokens?_token (by decide) (dot _) (Nat.le_refl _),
    tokens?_quote column restEnds, Option.map_map, Option.map_map]
  rfl

theorem split_word {word rest : List Char} (plain : word.all (· ∉ breaks) = true)
    (ends : Ends rest) :
    (word ++ rest).takeWhile (· ∉ breaks) = word ∧
      (word ++ rest).dropWhile (· ∉ breaks) = rest := by
  have stops : rest.takeWhile (· ∉ breaks) = [] ∧ rest.dropWhile (· ∉ breaks) = rest := by
    cases rest with
    | nil => exact ⟨rfl, rfl⟩
    | cons d rest =>
        have inside : d ∈ breaks := by
          rcases ends d rfl with rfl | rfl | rfl <;> decide
        simp [List.takeWhile, List.dropWhile, inside]
  rw [List.all_eq_true] at plain
  rw [List.takeWhile_append_of_pos plain, List.dropWhile_append_of_pos plain, stops.1, stops.2,
    List.append_nil]
  exact ⟨rfl, rfl⟩

/-- A word is one token: it has no character that ends it, and does not start as a name or with
a dot. -/
theorem spells_word {c : Char} {word : List Char}
    (starts : c ∉ '.' :: dialect.quoteMarks.1 :: breaks) (plain : word.all (· ∉ breaks) = true) :
    dialect.Spells (c :: word) [ofWord (c :: word)] := by
  intro rest ends
  obtain ⟨taken, dropped⟩ := split_word plain ends
  have read : dialect.readToken c (word ++ rest) = some (ofWord (c :: word), rest) := by
    simp only [breaks, List.mem_cons, not_or] at starts
    rw [readToken, taken, dropped]
    simp [starts]
  have notBlank : c ≠ ' ' := by
    rintro rfl
    exact starts (by simp [breaks])
  rw [List.cons_append, tokens?_token notBlank read (by simp)]
  rfl

end Dialect

end PagedJoins
