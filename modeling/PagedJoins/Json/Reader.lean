import PagedJoins.Json.Text
import PagedJoins.Json.Numeral

/-!
# Readers of JSON

A reader consumes the characters of one value and gives its meaning or a fault. White
space may stand before every token. Readers are composed from the tokens of the format,
and each value is read as the type that is wanted, so the first fault in reading order
is the one reported.
-/

namespace PagedJoins.Json

/-- Why a document was refused. -/
inductive Fault where
  /-- Not JSON, or not JSON of the wanted type. -/
  | malformed
  /-- A name that may come only once came twice. -/
  | duplicate (name : String)
  deriving DecidableEq, Repr

/-- A consumer of characters. -/
abbrev Reader := StateT (List Char) (Except Fault)

namespace Reader

variable {α σ : Type}

/-- Refuse the document. -/
def malformed : Reader α :=
  throw .malformed

/-- A reader from a function that splits its input. -/
def ofSplit (split : List Char → Option (α × List Char)) : Reader α := do
  match split (← get) with
  | some (value, rest) =>
    set rest
    return value
  | none => malformed

/-- The result, or a refusal. -/
def ofOption : Option α → Reader α
  | some value => pure value
  | none => malformed

/-- The white space of JSON. -/
def isSpace (c : Char) : Bool :=
  c = ' ' || c = '\t' || c = '\n' || c = '\r'

/-- Skip white space. -/
def space : Reader Unit :=
  modify (·.dropWhile isSpace)

/-- The next character that is not white space; it is not consumed. -/
def peek : Reader Char := do
  space
  match ← get with
  | c :: _ => return c
  | [] => malformed

/-- Consume the next character. -/
def advance : Reader Unit :=
  modify (·.drop 1)

/-- Consume the next character that is not white space, which must be `c`. -/
def expect (c : Char) : Reader Unit := do
  if (← peek) = c then advance else malformed

/-- Consume a word. -/
def word (chars : List Char) : Reader Unit := do
  space
  if chars.isPrefixOf (← get) then modify (·.drop chars.length) else malformed

/-- The parts of a string. -/
def units : Reader (List Unit16) := do
  expect '"'
  ofSplit readUnits

/-- A string. -/
def string : Reader String := do
  let chars ← ofOption (Unit16.text? (← units))
  return String.ofList chars

/-- A number as it is spelled. -/
def numeral : Reader Numeral := do
  space
  ofSplit readNumeral?

/-- The word `null`. -/
def null : Reader Unit :=
  word ['n', 'u', 'l', 'l']

/-- A truth value. -/
def bool : Reader Bool := do
  if (← peek) = 't' then
    word ['t', 'r', 'u', 'e']
    return true
  else
    word ['f', 'a', 'l', 's', 'e']
    return false

/-- A value, or `null` for none. -/
def optional (value : Reader α) : Reader (Option α) := do
  if (← peek) = 'n' then
    null
    return none
  else
    return some (← value)

/-- The members of an object from the first name on: each is taken into a state by `step`,
which reads the value. `fuel` bounds their number. -/
def members (name : Reader α) (step : σ → α → Reader σ) : (fuel : Nat) → σ → Reader σ
  | 0, _ => malformed
  | fuel + 1, state => do
    let key ← name
    expect ':'
    let state ← step state key
    let next ← peek
    advance
    if next = ',' then members name step fuel state
    else if next = '}' then return state
    else malformed

/-- An object, whose names are read by `name`. -/
def objectWith (name : Reader α) (step : σ → α → Reader σ) (state : σ) : Reader σ := do
  expect '{'
  if (← peek) = '}' then
    advance
    return state
  else
    members name step (← get).length state

/-- An object. Every member has a character of its own, so the length of the input bounds
their number. -/
def object (step : σ → String → Reader σ) (state : σ) : Reader σ :=
  objectWith string step state

/-- The elements of an array from the first on. -/
def elements (element : Reader Unit) : (fuel : Nat) → Reader Unit
  | 0 => malformed
  | fuel + 1 => do
    element
    let next ← peek
    advance
    if next = ',' then elements element fuel
    else if next = ']' then return ()
    else malformed

/-- Skip a value of at most the given depth. -/
def skipWithin : (depth : Nat) → Reader Unit
  | 0 => malformed
  | depth + 1 => do
    let c ← peek
    if c = '"' then
      discard units
    else if c = '{' then
      objectWith units (fun _ _ => skipWithin depth) ()
    else if c = '[' then
      advance
      if (← peek) = ']' then advance
      else elements (skipWithin depth) (← get).length
    else if c = 't' ∨ c = 'f' then
      discard bool
    else if c = 'n' then
      null
    else
      discard numeral

/-- Skip any value: a number of any size, and a string even if it denotes no text. -/
def skip : Reader Unit := do
  skipWithin (← get).length

/-- The value of a whole document, with nothing but white space around it. -/
def document (value : Reader α) (chars : List Char) : Except Fault α := do
  let (result, rest) ← value.run chars
  if rest.all isSpace then return result else throw .malformed

end Reader

end PagedJoins.Json
