import PagedJoins.Proofs.Sql.Literal
import PagedJoins.Proofs.Sql.Truth

/-!
# Conditions read back

A condition in a statement is read by recursive descent over its tokens. The parentheses
say what belongs together, so no precedence is needed: behind an opening one there is a row
of columns, if these are followed by a comma or the closing one, and otherwise a pair of
conditions with a connective between them. Reading a condition that was written gives the
condition back, with names and literals for what they stand for.
-/

namespace PagedJoins

/-- A column of an aliased table, by its names. -/
structure QualifiedName where
  table : String
  column : String
  deriving DecidableEq, Repr

/-- The tokens of a column. -/
def QualifiedName.tokens (name : QualifiedName) : List Token :=
  [.name name.table, .dot, .name name.column]

/-! ## The grammar -/

namespace Token

/-- Read a column. -/
def column? : List Token → Option (QualifiedName × List Token)
  | .name table :: .dot :: .name column :: rest => some (⟨table, column⟩, rest)
  | _ => none

/-- Read a literal. A word before a string is its type. -/
def literal? : List Token → Option (Literal × List Token)
  | .word type :: .string content :: rest => some (.typed type content, rest)
  | .word text :: rest => some (.word text, rest)
  | .string content :: rest => some (.string content, rest)
  | _ => none

/-- Read a row behind its opening parenthesis, of at most so many places. -/
def row? {α : Type} (element? : List Token → Option (α × List Token)) :
    Nat → List Token → Option (List α × List Token)
  | 0, _ => none
  | places + 1, tokens =>
    match element? tokens with
    | some (element, .comma :: rest) =>
      (row? element? places rest).map fun (row, rest) => (element :: row, rest)
    | some (element, .closing :: rest) => some ([element], rest)
    | _ => none

/-- Read a condition; the depth bounds how deep conditions are nested and how long rows are. -/
def condition? : Nat → List Token → Option (Condition QualifiedName Literal × List Token)
  | 0, _ => none
  | depth + 1, .opening :: tokens =>
    match row? column? depth tokens with
    | some (columns, .operator comparator :: .opening :: rest) =>
      (row? literal? depth rest).map fun (bounds, rest) =>
        (.compareRows columns comparator bounds, rest)
    | _ =>
      match condition? depth tokens with
      | some (left, .and :: rest) =>
        match condition? depth rest with
        | some (right, .closing :: rest) => some (.and left right, rest)
        | _ => none
      | some (left, .or :: rest) =>
        match condition? depth rest with
        | some (right, .closing :: rest) => some (.or left right, rest)
        | _ => none
      | _ => none
  | _ + 1, tokens =>
    match column? tokens with
    | some (column, .operator comparator :: rest) =>
      (literal? rest).map fun (bound, rest) => (.compare column comparator bound, rest)
    | _ => none

/-- The tokens of a row behind its opening parenthesis. -/
def ofRow {α : Type} (tokens : α → List Token) : List α → List Token
  | [] => [.closing]
  | [element] => tokens element ++ [.closing]
  | element :: row => tokens element ++ .comma :: ofRow tokens row

/-- The tokens of a condition. -/
def ofCondition : Condition QualifiedName Literal → List Token
  | .compare column comparator bound => column.tokens ++ .operator comparator :: bound.tokens
  | .compareRows columns comparator bounds =>
    .opening :: ofRow QualifiedName.tokens columns ++
      .operator comparator :: .opening :: ofRow Literal.tokens bounds
  | .and left right => .opening :: ofCondition left ++ .and :: ofCondition right ++ [.closing]
  | .or left right => .opening :: ofCondition left ++ .or :: ofCondition right ++ [.closing]

end Token

/-- Read a condition of a statement. -/
def Dialect.readCondition (dialect : Dialect) (text : String) :
    Option (Condition QualifiedName Literal) :=
  match dialect.tokens? text.toList with
  | some tokens =>
    match Token.condition? tokens.length tokens with
    | some (condition, []) => some condition
    | _ => none
  | none => none

namespace Token

/-! ## Tokens read back -/

theorem column?_tokens (name : QualifiedName) (rest : List Token) :
    column? (name.tokens ++ rest) = some (name, rest) :=
  rfl

/-- Does no string follow, which would make a type of a word? -/
def EndsLiteral (rest : List Token) : Prop :=
  ∀ content, rest.head? ≠ some (.string content)

theorem endsLiteral_nil : EndsLiteral [] := by
  intro content same
  cases same

theorem endsLiteral_cons {token : Token} {rest : List Token}
    (other : ∀ content, token ≠ .string content) : EndsLiteral (token :: rest) := by
  intro content same
  exact other content (Option.some.inj same)

theorem literal?_tokens (literal : Literal) {rest : List Token} (ends : EndsLiteral rest) :
    literal? (literal.tokens ++ rest) = some (literal, rest) := by
  cases literal with
  | typed type content => rfl
  | string content => rfl
  | word text =>
      cases rest with
      | nil => rfl
      | cons token rest =>
          cases token with
          | string content => exact absurd rfl (ends content)
          | _ => rfl

/-- A row is read place by place, if each place is read in front of a comma and in front of the
closing parenthesis. -/
theorem row?_ofRow {α : Type} {element? : List Token → Option (α × List Token)}
    {tokens : α → List Token}
    (comma : ∀ element rest, element? (tokens element ++ .comma :: rest) =
      some (element, .comma :: rest))
    (closing : ∀ element rest, element? (tokens element ++ .closing :: rest) =
      some (element, .closing :: rest))
    {row : List α} (places : row ≠ []) {bound : Nat} (enough : row.length ≤ bound)
    (rest : List Token) : row? element? bound (ofRow tokens row ++ rest) = some (row, rest) := by
  induction row generalizing bound with
  | nil => exact absurd rfl places
  | cons element row ih =>
      cases bound with
      | zero => exact absurd enough (Nat.not_succ_le_zero _)
      | succ bound =>
          cases row with
          | nil =>
              rw [ofRow, List.append_assoc, List.singleton_append, row?, closing]
          | cons next row =>
              have later := ih (List.cons_ne_nil _ _) (Nat.le_of_succ_le_succ enough)
              rw [ofRow, List.append_assoc, List.cons_append, row?, comma]
              simp only [later]
              rfl
              exact List.cons_ne_nil _ _

theorem length_le_ofRow {α : Type} (tokens : α → List Token) (row : List α) :
    row.length ≤ (ofRow tokens row).length := by
  induction row with
  | nil => exact Nat.zero_le _
  | cons element row ih =>
      cases row with
      | nil => simp [ofRow]
      | cons next row =>
          simp only [ofRow, List.length_append, List.length_cons] at ih ⊢
          omega

theorem ofRow_map {α β : Type} (tokens : β → List Token) (f : α → β) (row : List α) :
    ofRow tokens (row.map f) = ofRow (fun element => tokens (f element)) row := by
  induction row with
  | nil => rfl
  | cons element row ih =>
      cases row with
      | nil => rfl
      | cons next row =>
          have split : ofRow (fun element => tokens (f element)) (element :: next :: row) =
              tokens (f element) ++ .comma ::
                ofRow (fun element => tokens (f element)) (next :: row) := rfl
          rw [split, ← ih]
          rfl

theorem row?_ofCondition (condition : Condition QualifiedName Literal) (bound : Nat)
    (rest : List Token) : row? column? bound (ofCondition condition ++ rest) = none := by
  cases bound with
  | zero => rfl
  | succ bound =>
      cases condition with
      | compare column comparator bound => rfl
      | compareRows columns comparator bounds => rfl
      | and left right => rfl
      | or left right => rfl

theorem condition?_compare (column : QualifiedName) (comparator : Comparator) (bound : Literal)
    (depth : Nat) {rest : List Token} (ends : EndsLiteral rest) :
    condition? (depth + 1) (ofCondition (.compare column comparator bound) ++ rest) =
      some (.compare column comparator bound, rest) := by
  have shape : ofCondition (.compare column comparator bound) ++ rest =
      .name column.table :: .dot :: .name column.column ::
        .operator comparator :: (bound.tokens ++ rest) := rfl
  rw [shape, condition?]
  · simp only [column?, literal?_tokens bound ends]
    rfl
  · intro tokens same
    cases same

theorem condition?_compareRows {columns : List QualifiedName} {bounds : List Literal}
    (someColumns : columns ≠ []) (someBounds : bounds ≠ []) (comparator : Comparator) {depth : Nat}
    (enough : columns.length ≤ depth) (enough' : bounds.length ≤ depth) (rest : List Token) :
    condition? (depth + 1) (ofCondition (.compareRows columns comparator bounds) ++ rest) =
      some (.compareRows columns comparator bounds, rest) := by
  have shape : ofCondition (.compareRows columns comparator bounds) ++ rest =
      .opening :: (ofRow QualifiedName.tokens columns ++
        .operator comparator :: .opening :: (ofRow Literal.tokens bounds ++ rest)) := by
    simp [ofCondition]
  have readColumns : ∀ rest, row? column? depth (ofRow QualifiedName.tokens columns ++ rest) =
      some (columns, rest) :=
    row?_ofRow (fun name rest => column?_tokens name _) (fun name rest => column?_tokens name _)
      someColumns enough
  have readBounds : ∀ rest, row? literal? depth (ofRow Literal.tokens bounds ++ rest) =
      some (bounds, rest) :=
    row?_ofRow (fun literal rest => literal?_tokens literal (endsLiteral_cons nofun))
      (fun literal rest => literal?_tokens literal (endsLiteral_cons nofun)) someBounds enough'
  rw [shape, condition?, readColumns]
  simp only [readBounds]
  rfl

theorem condition?_pair {left right : Condition QualifiedName Literal} {connective : Token}
    {build : Condition QualifiedName Literal → Condition QualifiedName Literal →
      Condition QualifiedName Literal}
    (known : connective = .and ∧ build = .and ∨ connective = .or ∧ build = .or)
    {depth : Nat} {rest : List Token}
    (readLeft : condition? depth
      (ofCondition left ++ connective :: (ofCondition right ++ .closing :: rest)) =
        some (left, connective :: (ofCondition right ++ .closing :: rest)))
    (readRight : condition? depth (ofCondition right ++ .closing :: rest) =
      some (right, .closing :: rest)) :
    condition? (depth + 1) (.opening ::
      (ofCondition left ++ connective :: (ofCondition right ++ .closing :: rest))) =
        some (build left right, rest) := by
  rw [condition?, row?_ofCondition]
  rcases known with ⟨rfl, rfl⟩ | ⟨rfl, rfl⟩
  · simp only [readLeft, readRight]
  · simp only [readLeft, readRight]

/-- The tokens of a condition are read as the condition, if no string follows them. -/
theorem condition?_ofCondition {condition : Condition QualifiedName Literal}
    (places : condition.HasPlaces) {depth : Nat}
    (enough : (ofCondition condition).length ≤ depth) {rest : List Token}
    (ends : EndsLiteral rest) :
    condition? depth (ofCondition condition ++ rest) = some (condition, rest) := by
  induction condition generalizing depth rest with
  | compare column comparator bound =>
      cases depth with
      | zero => exact absurd enough (Nat.not_succ_le_zero _)
      | succ depth => exact condition?_compare column comparator bound depth ends
  | compareRows columns comparator bounds =>
      cases depth with
      | zero => exact absurd enough (Nat.not_succ_le_zero _)
      | succ depth =>
          have long := length_le_ofRow QualifiedName.tokens columns
          have long' := length_le_ofRow Literal.tokens bounds
          simp only [ofCondition, List.length_append, List.length_cons] at enough
          apply condition?_compareRows places.1 places.2
          · omega
          · omega
  | and left right ihLeft ihRight =>
      cases depth with
      | zero => exact absurd enough (Nat.not_succ_le_zero _)
      | succ depth =>
          have shape : ofCondition (.and left right) ++ rest = .opening ::
              (ofCondition left ++ .and :: (ofCondition right ++ .closing :: rest)) := by
            simp [ofCondition]
          simp only [ofCondition, List.length_append, List.length_cons] at enough
          rw [shape]
          apply condition?_pair (.inl ⟨rfl, rfl⟩)
          · exact ihLeft places.1 (by omega) (endsLiteral_cons nofun)
          · exact ihRight places.2 (by omega) (endsLiteral_cons nofun)
  | or left right ihLeft ihRight =>
      cases depth with
      | zero => exact absurd enough (Nat.not_succ_le_zero _)
      | succ depth =>
          have shape : ofCondition (.or left right) ++ rest = .opening ::
              (ofCondition left ++ .or :: (ofCondition right ++ .closing :: rest)) := by
            simp [ofCondition]
          simp only [ofCondition, List.length_append, List.length_cons] at enough
          rw [shape]
          apply condition?_pair (.inr ⟨rfl, rfl⟩)
          · exact ihLeft places.1 (by omega) (endsLiteral_cons nofun)
          · exact ihRight places.2 (by omega) (endsLiteral_cons nofun)

end Token

namespace Dialect

variable {dialect : Dialect} {γ δ : Type}

/-! ## Texts of conditions -/

theorem spells_closing : dialect.Spells [')'] [.closing] := by
  intro rest ends
  rw [List.singleton_append, tokens?_token (by decide) rfl (Nat.le_refl _)]
  rfl

theorem spells_operator {text : List Char} {tokens : List Token} (comparator : Comparator)
    (spells : dialect.Spells text tokens) :
    dialect.Spells (' ' :: comparator.symbol.toList ++ ' ' :: text)
      (.operator comparator :: tokens) := by
  cases comparator with
  | less => exact (spells.blank.cons (by decide) fun rest => rfl).blank
  | equal => exact (spells.blank.cons (by decide) fun rest => rfl).blank
  | greater => exact (spells.blank.cons (by decide) fun rest => rfl).blank

theorem spells_row {α : Type} {text : α → String} {tokens : α → List Token}
    (spells : ∀ element, dialect.Spells (text element).toList (tokens element)) {row : List α}
    (places : row ≠ []) :
    dialect.Spells (Condition.row (row.map text)).toList
      (.opening :: Token.ofRow tokens row) := by
  have behind : dialect.Spells ((", ".intercalate (row.map text)).toList ++ [')'])
      (Token.ofRow tokens row) := by
    induction row with
    | nil => exact absurd rfl places
    | cons element row ih =>
        cases row with
        | nil =>
            rw [List.map_cons, List.map_nil, String.intercalate_singleton]
            exact (spells element).append spells_closing (ends_closing [])
        | cons next row =>
            have later := ih (List.cons_ne_nil _ _)
            have shape : (", ".intercalate ((element :: next :: row).map text)).toList ++ [')'] =
                (text element).toList ++
                  ',' :: ' ' :: ((", ".intercalate ((next :: row).map text)).toList ++ [')']) := by
              simp [String.intercalate_cons_cons]
            rw [shape]
            exact (spells element).append (later.blank.cons (by decide) fun rest => rfl)
              (ends_comma _)
  have shape : (Condition.row (row.map text)).toList =
      '(' :: ((", ".intercalate (row.map text)).toList ++ [')']) := by
    simp [Condition.row]
  rw [shape]
  exact behind.cons (by decide) fun rest => rfl

theorem spells_connective {left right : List Char} {leftTokens rightTokens : List Token}
    {word : List Char} {connective : Token} (spells : dialect.Spells left leftTokens)
    (spells' : dialect.Spells right rightTokens)
    (spellsWord : dialect.Spells word [connective]) :
    dialect.Spells ('(' :: (left ++ ' ' :: (word ++ ' ' :: (right ++ [')']))))
      (.opening :: leftTokens ++ (connective :: rightTokens ++ [.closing])) := by
  have closed := spells'.append spells_closing (ends_closing [])
  have joined := spellsWord.append closed.blank (ends_blank _)
  have whole := spells.append joined.blank (ends_blank _)
  exact whole.cons (by decide) fun rest => rfl

theorem spells_comparison {left right : List Char} {leftTokens rightTokens : List Token}
    (comparator : Comparator) (spells : dialect.Spells left leftTokens)
    (spells' : dialect.Spells right rightTokens) :
    dialect.Spells (left ++ (' ' :: comparator.symbol.toList ++ ' ' :: right))
      (leftTokens ++ .operator comparator :: rightTokens) :=
  spells.append (spells_operator comparator spells') (ends_blank _)

theorem spells_and : dialect.Spells "AND".toList [.and] :=
  spells_word (by cases dialect <;> decide) (by decide)

theorem spells_or : dialect.Spells "OR".toList [.or] :=
  spells_word (by cases dialect <;> decide) (by decide)

/-- A condition in a statement has the tokens of what it compares. -/
theorem spells_render {column : γ → QualifiedName} {bound : δ → Value}
    (finite : ∀ d, (bound d).isFinite = true) {condition : Condition γ δ}
    (places : condition.HasPlaces) :
    dialect.Spells
      (condition.map (fun g => dialect.qualify (column g).table (column g).column)
        (fun d => dialect.literal (bound d))).render.toList
      (Token.ofCondition (condition.map column fun d => dialect.spelling (bound d))) := by
  have spellsColumn : ∀ g, dialect.Spells
      (dialect.qualify (column g).table (column g).column).toList (column g).tokens :=
    fun g => spells_qualify (column g).table (column g).column
  have spellsBound : ∀ d, dialect.Spells (dialect.literal (bound d)).toList
      (dialect.spelling (bound d)).tokens :=
    fun d => spells_literal (finite d)
  induction condition with
  | compare left comparator right =>
      simp only [Condition.map, Condition.render, Token.ofCondition, String.toList_append,
        List.append_assoc]
      exact spells_comparison comparator (spellsColumn left) (spellsBound right)
  | compareRows left comparator right =>
      simp only [Condition.map, Condition.render, Token.ofCondition, Token.ofRow_map,
        String.toList_append, List.append_assoc]
      exact spells_comparison comparator (spells_row spellsColumn places.1)
        (spells_row spellsBound places.2)
  | and left right ihLeft ihRight =>
      simp only [Condition.map, Condition.render, Token.ofCondition, String.toList_append,
        List.append_assoc]
      exact spells_connective (ihLeft places.1) (ihRight places.2) spells_and
  | or left right ihLeft ihRight =>
      simp only [Condition.map, Condition.render, Token.ofCondition, String.toList_append,
        List.append_assoc]
      exact spells_connective (ihLeft places.1) (ihRight places.2) spells_or

/-- A condition in a statement is read back, with names and literals for what they stand for. -/
theorem readCondition_render (column : γ → QualifiedName) (bound : δ → Value)
    (finite : ∀ d, (bound d).isFinite = true) {condition : Condition γ δ}
    (places : condition.HasPlaces) :
    dialect.readCondition
      (condition.map (fun g => dialect.qualify (column g).table (column g).column)
        (fun d => dialect.literal (bound d))).render =
      some (condition.map column fun d => dialect.spelling (bound d)) := by
  have spelled : dialect.Spells
      (condition.map (fun g => dialect.qualify (column g).table (column g).column)
        (fun d => dialect.literal (bound d))).render.toList
      (Token.ofCondition (condition.map column fun d => dialect.spelling (bound d))) :=
    spells_render finite places
  have tokens := spelled [] ends_nil
  rw [List.append_nil, tokens?, Option.map_some, List.append_nil] at tokens
  have ends : Token.EndsLiteral [] := Token.endsLiteral_nil
  have read := Token.condition?_ofCondition
    (places.map column fun d => dialect.spelling (bound d)) (Nat.le_refl _) ends
  rw [List.append_nil] at read
  rw [readCondition, tokens]
  simp only [read]

end Dialect

end PagedJoins
