import PagedJoins.Json.Reader

/-!
# Records in JSON

A record is written as an object of its fields in order. It is read from such an object,
in which each field comes exactly once and other members are skipped, or from the array
of its fields.
-/

namespace PagedJoins.Json

/-- An object from its members, given as names and JSON. -/
def object (members : List (String × String)) : String :=
  "\x7b" ++ ",".intercalate (members.map fun (name, value) => quote name ++ ":" ++ value)
    ++ "\x7d"

namespace Reader

/-- Read a field that has not been read before. -/
def once {α : Type} (name : String) (slot : Option α) (value : Reader α) :
    Reader (Option α) :=
  match slot with
  | some _ => throw (.duplicate name)
  | none => some <$> value

/-- Read a record of one field. -/
def record₁ {α : Type} (field : String) (value : Reader α) : Reader α := do
  if (← peek) = '[' then
    advance
    let a ← value
    expect ']'
    return a
  else
    let slot ← object (fun slot name =>
      if name = field then once name slot value else do skip; return slot) none
    ofOption slot

/-- Read a record of two fields. -/
def record₂ {α β : Type} (field₁ : String) (value₁ : Reader α) (field₂ : String)
    (value₂ : Reader β) : Reader (α × β) := do
  if (← peek) = '[' then
    advance
    let a ← value₁
    expect ','
    let b ← value₂
    expect ']'
    return (a, b)
  else
    let (slot₁, slot₂) ← object (fun (slot₁, slot₂) name =>
      if name = field₁ then return (← once name slot₁ value₁, slot₂)
      else if name = field₂ then return (slot₁, ← once name slot₂ value₂)
      else do skip; return (slot₁, slot₂)) (none, none)
    return (← ofOption slot₁, ← ofOption slot₂)

end Reader

end PagedJoins.Json
