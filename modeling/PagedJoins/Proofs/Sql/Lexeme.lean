import PagedJoins.Sql.Dialect

/-!
# Scanning conditions

The text of a condition is scanned character by character, as a database does it: names and
strings in quotes may hold anything between their marks, and outside them a text falls into
words and signs. The words that connect conditions, and those that brace a part of one, are
told from all others. A text that a database might scan in some other way, because of a comment,
a string with a prefix or a connective that is spelled with signs, is not scanned at all.

The scanner goes from state to state, so a text can be scanned in parts; and a blank ends
whatever stands before it.
-/

namespace PagedJoins

/-- What braces a part of a condition. -/
inductive Brace where
  | parentheses
  /-- The words `CASE` and `END`. -/
  | caseWords
  deriving DecidableEq, Repr

/-- What a condition consists of. -/
inductive Lexeme where
  | opening (brace : Brace)
  | closing (brace : Brace)
  | and
  | or
  /-- The word `BETWEEN`, which has an `AND` of its own. -/
  | between
  /-- Anything else: a word, a sign, or a name or string in quotes. -/
  | other (text : List Char)
  deriving DecidableEq, Repr

/-- The kinds of quotes. -/
inductive Quotes where
  | single
  | double
  | backticks
  | brackets
  deriving DecidableEq, Repr

/-- The mark that closes quotes. -/
def Quotes.closing : Quotes → Char
  | single => '\''
  | double => '"'
  | backticks => '\x60'
  | brackets => ']'

/-- Where a scan is. -/
inductive Scan where
  | outside
  | word (chars : List Char)
  /-- Behind a sign, which might be the first half of a longer one. -/
  | sign (c : Char)
  | quoted (quotes : Quotes) (chars : List Char)
  /-- Behind a backslash in quotes. -/
  | escaped (quotes : Quotes) (chars : List Char)
  /-- Behind a closing mark, which stands for itself if it is doubled. -/
  | closed (quotes : Quotes) (chars : List Char)
  deriving DecidableEq, Repr

namespace Dialect

/-- The quotes that a mark opens. -/
def quotes? (dialect : Dialect) (c : Char) : Option Quotes :=
  if c = '\'' then some .single
  else if c = '"' then some .double
  else if c = '\x60' ∧ dialect ∈ [mySql, mariaDb, sqlite] then some .backticks
  else if c = '[' ∧ dialect ∈ [sqlServer, sqlite] then some .brackets
  else none

/-- Does a backslash in the quotes take the meaning of the next character? -/
def escapesIn (dialect : Dialect) : Quotes → Bool
  | .single | .double => dialect ∈ [mySql, mariaDb]
  | .backticks | .brackets => false

/-- Does the character begin something that is not scanned: the end of a statement, a comment, or a
string between signs of its own? -/
def isForeign (dialect : Dialect) (c : Char) : Bool :=
  c = ';' || (c = '#' && dialect ∈ [mySql, mariaDb]) || (c = '$' && dialect = postgres)

/-- Do two signs together begin a comment, or are they a connective? -/
def isForeignPair (dialect : Dialect) (c d : Char) : Bool :=
  (c = '-' && d = '-') || (c = '/' && d = '*') ||
    (((c = '|' && d = '|') || (c = '&' && d = '&')) && dialect ∈ [mySql, mariaDb])

/-- The words before a string that change how it is read, in lower case. -/
def stringPrefixes : Dialect → List String
  | postgres => ["e"]
  | oracle => ["q", "nq"]
  | _ => []

end Dialect

namespace Scan

/-- The characters of words. -/
def isWordChar (c : Char) : Bool :=
  c.isAlphanum || c = '_' || c = '.' || c = '@' || 128 ≤ c.toNat

/-- Is this a word, and if it begins like a numeral, is it one? Some databases let a word begin
behind a numeral without a blank. -/
def isWhole (chars : List Char) : Bool :=
  let bare := chars.dropWhile (· = '.')
  !bare.head?.any Char.isDigit || bare.all fun c => c.isDigit || c = '.' || c = 'e' || c = 'E'

/-- The lexeme of a word. The case of ASCII letters does not matter. -/
def ofWord? (dialect : Dialect) (chars : List Char) : Option Lexeme :=
  match String.ofList (chars.map Char.toLower) with
  | "and" => some .and
  | "or" => some .or
  | "between" => some .between
  | "case" => some (.opening .caseWords)
  | "end" => some (.closing .caseWords)
  | "xor" => if dialect ∈ [.mySql, .mariaDb] then none else some (.other chars)
  | _ => if isWhole chars then some (.other chars) else none

/-- Go on with a character that does not belong to what stands before it. -/
def start (dialect : Dialect) (c : Char) : Option (List Lexeme × Scan) :=
  if c.isWhitespace then some ([], outside)
  else if c = '(' then some ([.opening .parentheses], outside)
  else if c = ')' then some ([.closing .parentheses], outside)
  else if isWordChar c then some ([], word [c])
  else if dialect.isForeign c then none
  else match dialect.quotes? c with
    | some quotes => some ([], quoted quotes [c])
    | none => some ([.other [c]], sign c)

/-- What a scan has still to tell at the end of the text. -/
def finish (dialect : Dialect) : Scan → Option (List Lexeme)
  | outside | sign _ => some []
  | word chars => (ofWord? dialect chars).map ([·])
  | closed _ chars => some [.other chars]
  | quoted .. | escaped .. => none

/-- Tell what stands before a character that does not belong to it, and go on. -/
def next (dialect : Dialect) (scan : Scan) (c : Char) : Option (List Lexeme × Scan) := do
  let before ← scan.finish dialect
  let (lexemes, scan) ← start dialect c
  return (before ++ lexemes, scan)

/-- Scan a character. -/
def step (dialect : Dialect) : Scan → Char → Option (List Lexeme × Scan)
  | outside, c => outside.next dialect c
  | sign d, c => if dialect.isForeignPair d c then none else (sign d).next dialect c
  | word chars, c =>
    if isWordChar c then some ([], word (chars ++ [c]))
    else if c = '\'' ∧ String.ofList (chars.map Char.toLower) ∈ dialect.stringPrefixes then none
    else (word chars).next dialect c
  | quoted quotes chars, c =>
    if c = quotes.closing then some ([], closed quotes (chars ++ [c]))
    else if c = '\\' ∧ dialect.escapesIn quotes then some ([], escaped quotes (chars ++ [c]))
    else some ([], quoted quotes (chars ++ [c]))
  | escaped quotes chars, c => some ([], quoted quotes (chars ++ [c]))
  | closed quotes chars, c =>
    if c = quotes.closing then some ([], quoted quotes (chars ++ [c]))
    else (closed quotes chars).next dialect c

/-- Scan some characters. -/
def run (dialect : Dialect) : Scan → List Char → Option (List Lexeme × Scan)
  | scan, [] => some ([], scan)
  | scan, c :: chars => do
    let (lexemes, scan) ← scan.step dialect c
    let (others, scan) ← scan.run dialect chars
    return (lexemes ++ others, scan)

end Scan

/-- The lexemes of a text. -/
def Dialect.lexemes? (dialect : Dialect) (text : List Char) : Option (List Lexeme) := do
  let (lexemes, scan) ← Scan.outside.run dialect text
  let last ← scan.finish dialect
  return lexemes ++ last

namespace Scan

variable {dialect : Dialect}

theorem run_append (scan : Scan) (front back : List Char) :
    scan.run dialect (front ++ back) = do
      let (lexemes, scan) ← scan.run dialect front
      let (others, scan) ← scan.run dialect back
      return (lexemes ++ others, scan) := by
  induction front generalizing scan with
  | nil => exact (bind_pure _).symm
  | cons c front ih =>
      simp only [List.cons_append, run, ih, bind_assoc, pure_bind, List.append_assoc]

theorem step_blank {scan : Scan} {last : List Lexeme} (ends : scan.finish dialect = some last) :
    scan.step dialect ' ' = some (last, outside) := by
  have told : scan.next dialect ' ' = some (last, outside) := by
    simp [next, ends, start, Char.isWhitespace]
  cases scan with
  | outside => exact told
  | sign c => rwa [step, if_neg (by simp [Dialect.isForeignPair])]
  | word chars => rwa [step, if_neg (by decide), if_neg (by simp)]
  | quoted | escaped => cases ends
  | closed quotes chars => rwa [step, if_neg (by cases quotes <;> decide)]

end Scan

namespace Dialect

variable {dialect : Dialect} {front back : List Char} {lexemes others : List Lexeme}

/-- Texts with a blank between them are scanned one by one. -/
theorem lexemes?_append_blank (read : dialect.lexemes? front = some lexemes)
    (read' : dialect.lexemes? back = some others) :
    dialect.lexemes? (front ++ ' ' :: back) = some (lexemes ++ others) := by
  obtain ⟨⟨told, scan⟩, scanned, rest⟩ := Option.bind_eq_some_iff.mp read
  obtain ⟨last, ends, result⟩ := Option.bind_eq_some_iff.mp rest
  obtain ⟨⟨told', scan'⟩, scanned', rest'⟩ := Option.bind_eq_some_iff.mp read'
  obtain ⟨last', ends', result'⟩ := Option.bind_eq_some_iff.mp rest'
  cases result
  cases result'
  have whole : Scan.outside.run dialect (front ++ ' ' :: back) =
      some (told ++ (last ++ told'), scan') := by
    simp [Scan.run_append, scanned, Scan.run, Scan.step_blank ends, scanned']
  simp [lexemes?, whole, ends']

/-- Every dialect knows the word that joins conditions. -/
theorem lexemes?_and (dialect : Dialect) : dialect.lexemes? "AND".toList = some [.and] := by
  cases dialect <;> rfl

end Dialect

end PagedJoins
