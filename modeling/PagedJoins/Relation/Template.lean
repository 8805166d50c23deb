import PagedJoins.Relation.Node
import PagedJoins.Sql.Identifier
import PagedJoins.Sql.Literal

/-!
# Callbacks from templates

A template is a condition with placeholders, which are names between braces. It is a
callback without code: the placeholders stand for the aliases that the condition is to be
about, for parts of the relation, and for arguments and context values as literals.

A name that means nothing is left as it stands, braces and all, and so is an opening brace
that nothing closes. A placeholder whose value is absent makes the condition void.
-/

namespace PagedJoins

namespace Template

/-- A part of a template: a character, or a placeholder. -/
inductive Part where
  | char (c : Char)
  | placeholder (name : List Char)

/-- The parts of a template. Behind an opening brace, the name up to here is carried along in
reverse. -/
def parts : (opened : Option (List Char)) → List Char → List Part
  | none, [] => []
  | none, c :: rest => if c = '\x7b' then parts (some []) rest else .char c :: parts none rest
  | some name, [] => ('\x7b' :: name.reverse).map .char
  | some name, c :: rest =>
    if c = '\x7d' then .placeholder name.reverse :: parts none rest
    else parts (some (c :: name)) rest

/-- What a placeholder stands for. -/
inductive Meaning where
  | text (s : String)
  /-- A value that could be there and is not. -/
  | absent
  | unknown

/-- A value that a placeholder stands for, if it is there. -/
def Meaning.ofOption : Option String → Meaning
  | some s => text s
  | none => absent

/-- The text of a part; `none` if its value is absent. -/
def Part.expand (meaning : String → Meaning) : Part → Option (List Char)
  | char c => some [c]
  | placeholder name =>
    match meaning (String.ofList name) with
    | .text s => some s.toList
    | .absent => none
    | .unknown => some ('\x7b' :: name ++ ['\x7d'])

/-- The text of a template; `none` if the value of a placeholder is absent. -/
def expand (meaning : String → Meaning) (template : String) : Option String := do
  let texts ← (parts none template.toList).mapM (·.expand meaning)
  return String.ofList texts.flatten

/-- The meaning of the placeholders that have one in every template. -/
def relationMeaning (dialect : Dialect) (relation : Relation) (context : Bindings)
    (name : String) : Meaning :=
  let literal (values : Bindings) (key : List Char) : Meaning :=
    .ofOption ((values.get? (String.ofList key)).map dialect.literal)
  if name = "node" then .text relation.aliasName
  else if name = "name" then .text relation.table
  else if name = "first" then
    .ofOption (relation.args.first.map fun n => Text.decimal n.toNat)
  else
    match "arg:".toList.isPrefixOf? name.toList, "ctx:".toList.isPrefixOf? name.toList with
    | some key, _ => literal relation.args.filters key
    | none, some key => literal context key
    | none, none => .unknown

/-- A template as a filter; the aliases of a join stand for nothing in it. -/
def filter (dialect : Dialect) (template : String) : Filter Bindings := fun scope =>
  let meaning (name : String) : Meaning :=
    if name = "table" then .text scope.table
    else if name = "parent" ∨ name = "child" then .text ""
    else relationMeaning dialect scope.relation scope.context name
  .ok (expand meaning template)

/-- A template as a join condition; the alias of a filter stands for nothing in it, and a
void condition is empty. -/
def join (dialect : Dialect) (template : String) : JoinCondition Bindings := fun scope =>
  let meaning (name : String) : Meaning :=
    if name = "parent" then .text scope.parent
    else if name = "child" then .text scope.child
    else if name = "table" then .text ""
    else relationMeaning dialect scope.relation scope.context name
  .ok ((expand meaning template).getD "")

end Template

end PagedJoins
