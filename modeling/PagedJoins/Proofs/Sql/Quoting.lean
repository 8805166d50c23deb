import PagedJoins.Proofs.Sql.Literal

/-!
# Strings that stay inside their quotes

A database reads a string up to the first mark that is neither doubled nor escaped. Whatever
text a literal was made from, it is read back from the literal, and what stands behind the
literal is left as it is, so no text can end its own literal and go on as a statement.
-/

namespace PagedJoins.Dialect

/-- Read a string behind its opening mark. Two marks are one, and a single one ends the string.
In MySQL and MariaDB a backslash takes the meaning of the next character, and whichever character
that is stands for itself. -/
def scanString (dialect : Dialect) : List Char → Option (List Char × List Char)
  | [] => none
  | c :: rest =>
    if c = '\'' then
      match rest with
      | '\'' :: rest =>
        (dialect.scanString rest).map fun (content, after) => ('\'' :: content, after)
      | rest => some ([], rest)
    else if c = '\\' ∧ (dialect = mySql ∨ dialect = mariaDb) then
      match rest with
      | d :: rest => (dialect.scanString rest).map fun (content, after) => (d :: content, after)
      | [] => none
    else
      (dialect.scanString rest).map fun (content, after) => (c :: content, after)

/-- Read a string from its opening mark on: its content, and what stands behind it. -/
def scanLiteral (dialect : Dialect) : List Char → Option (List Char × List Char)
  | '\'' :: rest => dialect.scanString rest
  | _ => none

variable {dialect : Dialect} {chars content rest : List Char}

theorem scanString_mark (ends : rest.head? ≠ some '\'') :
    dialect.scanString ('\'' :: rest) = some ([], rest) := by
  cases rest with
  | nil => rfl
  | cons c rest =>
      have differs : c ≠ '\'' := fun same => ends (congrArg some same)
      simp [scanString, differs]

/-- A string that has no other escapes than a doubled backslash is read by its content. -/
theorem scanString_of_readString (read : dialect.readString chars = some (content, rest)) :
    dialect.scanString chars = some (content, rest) := by
  fun_induction readString dialect chars generalizing content with
  | case1 => cases read
  | case2 behind ih =>
      obtain ⟨⟨inside, after⟩, found, same⟩ := Option.map_eq_some_iff.mp read
      cases same
      simp [scanString, ih found]
  | case3 behind single =>
      cases read
      apply scanString_mark
      cases rest with
      | nil => exact nofun
      | cons c behind => exact fun mark => single behind (by rw [Option.some.inj mark])
  | case4 c notMark escapes behind ih =>
      obtain ⟨⟨inside, after⟩, found, same⟩ := Option.map_eq_some_iff.mp read
      cases same
      simp [scanString, escapes, ih found]
  | case5 => cases read
  | case6 c behind notMark plain ih =>
      obtain ⟨⟨inside, after⟩, found, same⟩ := Option.map_eq_some_iff.mp read
      cases same
      rw [scanString.eq_def]
      simp only [notMark, plain, if_false, ih found]
      rfl

/-- A string that ends a text is read in the same way in front of another text, if no further mark
follows. -/
theorem scanString_append (read : dialect.scanString chars = some (content, []))
    (ends : rest.head? ≠ some '\'') :
    dialect.scanString (chars ++ rest) = some (content, rest) := by
  fun_induction scanString dialect chars generalizing content with
  | case1 => cases read
  | case2 behind ih =>
      obtain ⟨⟨inside, after⟩, found, same⟩ := Option.map_eq_some_iff.mp read
      cases same
      simp [scanString, ih found]
  | case3 behind single =>
      cases read
      exact scanString_mark ends
  | case4 c notMark escapes d behind ih =>
      obtain ⟨⟨inside, after⟩, found, same⟩ := Option.map_eq_some_iff.mp read
      cases same
      rw [List.cons_append, List.cons_append, scanString.eq_def]
      dsimp only
      rw [if_neg notMark, if_pos escapes, ih found]
      rfl
  | case5 => cases read
  | case6 c behind notMark plain ih =>
      obtain ⟨⟨inside, after⟩, found, same⟩ := Option.map_eq_some_iff.mp read
      cases same
      rw [List.cons_append, scanString.eq_def]
      simp only [notMark, plain, if_false, ih found]
      rfl

theorem exists_of_scanLiteral (read : dialect.scanLiteral chars = some (content, rest)) :
    ∃ behind, chars = '\'' :: behind ∧ dialect.scanString behind = some (content, rest) := by
  unfold scanLiteral at read
  split at read
  · exact ⟨_, rfl, read⟩
  · cases read

/-- A string literal is read back, if no further mark follows, and what follows is left. -/
theorem scanLiteral_stringLiteral (content : List Char) {rest : List Char}
    (ends : rest.head? ≠ some '\'') :
    dialect.scanLiteral ((dialect.stringLiteral content).toList ++ rest) =
      some (content, rest) := by
  have shape : (dialect.stringLiteral content).toList ++ rest =
      '\'' :: (dialect.escapeString content ++ '\'' :: rest) := by
    simp [stringLiteral]
  rw [shape]
  exact scanString_of_readString (readString_escapeString content ends)

/-! ## Literals of texts and of decimals -/

/-- Is the text one that the dialect writes as a timestamp? -/
def WritesTimestamp (dialect : Dialect) (s : String) : Prop :=
  dialect = .oracle ∧ Shape.IsTimestampText Text.isDecimalDigit s.toList

variable {s : String}

theorem hasTimestamps_iff : dialect.hasTimestamps = true ↔ dialect = .oracle := by
  cases dialect <;> decide

/-- A timestamp is a word and a string: its type, and the date and the time with a space between
them. -/
theorem literal_of_writesTimestamp (stamp : dialect.WritesTimestamp s) :
    dialect.literal (.text s) =
      "TIMESTAMP " ++ dialect.stringLiteral (Shape.spaced s.toList) := by
  have content : Shape.timestamp? s.toList = some (Shape.spaced s.toList) :=
    Shape.timestamp?_eq_some_iff.mpr ⟨stamp.2, rfl⟩
  rw [literal, content]
  exact if_pos (hasTimestamps_iff.mpr stamp.1)

theorem literal_of_not_writesTimestamp (plain : ¬ dialect.WritesTimestamp s) :
    dialect.literal (.text s) = dialect.stringLiteral s.toList := by
  rw [literal]
  split
  · rename_i content accepted
    apply if_neg
    exact fun typed => plain
      ⟨hasTimestamps_iff.mp typed, (Shape.timestamp?_eq_some_iff.mp accepted).1⟩
  · rfl

theorem literal_of_not_isNumeral (other : ¬ Text.IsNumeral Text.isDecimalDigit s.toList) :
    dialect.literal (.decimal s) = dialect.stringLiteral s.toList :=
  if_neg fun accepted => other (Shape.isNumeral_iff.mp accepted)

/-- A database that reads the literal of a text gets the text back and goes on where the literal
ends, whatever the text holds. Only a timestamp is told otherwise: its date and its time are the
string behind its type. A decimal that is no numeral is read as a text is. -/
theorem scanLiteral_literal (s : String) {rest : List Char} (ends : rest.head? ≠ some '\'') :
    (¬ dialect.WritesTimestamp s →
      dialect.scanLiteral ((dialect.literal (.text s)).toList ++ rest) =
        some (s.toList, rest)) ∧
    (dialect.WritesTimestamp s → ∃ quoted : String,
      dialect.literal (.text s) = "TIMESTAMP " ++ quoted ∧
      dialect.scanLiteral (quoted.toList ++ rest) = some (Shape.spaced s.toList, rest)) ∧
    (¬ Text.IsNumeral Text.isDecimalDigit s.toList →
      dialect.scanLiteral ((dialect.literal (.decimal s)).toList ++ rest) =
        some (s.toList, rest)) := by
  refine ⟨fun plain => ?text, fun stamp => ?timestamp, fun other => ?decimal⟩
  case text =>
    rw [literal_of_not_writesTimestamp plain]
    exact scanLiteral_stringLiteral s.toList ends
  case timestamp =>
    exact ⟨_, literal_of_writesTimestamp stamp, scanLiteral_stringLiteral _ ends⟩
  case decimal =>
    rw [literal_of_not_isNumeral other]
    exact scanLiteral_stringLiteral s.toList ends

/-- A backslash before a mark does not free the mark, and a timestamp is put between marks. -/
theorem scanLiteral_literal_hostile :
    mySql.scanLiteral ((mySql.literal (.text "\\' OR ''=' --")).toList ++ " OR x".toList) =
      some ("\\' OR ''=' --".toList, " OR x".toList) ∧
    oracle.scanLiteral ((oracle.literal (.decimal "1'; --")).toList ++ ")".toList) =
      some ("1'; --".toList, ")".toList) ∧
    ∃ quoted : String,
      oracle.literal (.text "2024-01-02T03:04:05Z") = "TIMESTAMP " ++ quoted ∧
      oracle.scanLiteral (quoted.toList ++ ")".toList) =
        some ("2024-01-02 03:04:05".toList, ")".toList) := by
  refine ⟨(scanLiteral_literal _ (by decide)).1 nofun,
    (scanLiteral_literal _ (by decide)).2.2 ?_,
    (scanLiteral_literal _ (by decide)).2.1 ⟨rfl, ?_⟩⟩
  · exact fun numeral => Bool.false_ne_true (Shape.isNumeral_iff.mpr numeral)
  · have accepted : Shape.timestamp? "2024-01-02T03:04:05Z".toList =
        some "2024-01-02 03:04:05".toList := rfl
    exact (Shape.timestamp?_eq_some_iff.mp accepted).1

end PagedJoins.Dialect
