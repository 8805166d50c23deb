import Mathlib.Logic.Function.Basic
import PagedJoins.Sql.Identifier

/-!
# Names that delimit themselves

A database reads a quoted name up to the first closing mark that is not doubled. What it reads so
is exactly what quoting writes: the name comes back, whatever it holds, and what stands behind it is
left, unless that goes on with the closing mark. No two names are hence quoted alike.
-/

namespace PagedJoins

namespace Text

variable {quote : Char} {chars text after : List Char}

theorem eq_doubled_of_readDoubled (read : readDoubled quote chars = some (text, after)) :
    chars = doubled quote text ++ quote :: after ∧ after.head? ≠ some quote := by
  fun_induction readDoubled quote chars generalizing text with
  | case1 => cases read
  | case2 behind ih =>
      obtain ⟨⟨inside, left⟩, found, same⟩ := Option.map_eq_some_iff.mp read
      cases same
      obtain ⟨parts, ends⟩ := ih found
      exact ⟨by simp [doubled, parts], ends⟩
  | case3 c behind other =>
      cases read
      exact ⟨rfl, fun same => other (Option.some.inj same)⟩
  | case4 =>
      cases read
      exact ⟨rfl, by simp⟩
  | case5 c behind other ih =>
      obtain ⟨⟨inside, left⟩, found, same⟩ := Option.map_eq_some_iff.mp read
      cases same
      obtain ⟨parts, ends⟩ := ih found
      exact ⟨by simp [doubled, other, parts], ends⟩

/-- Reading and doubling are inverse to each other. -/
theorem readDoubled_eq_some_iff :
    readDoubled quote chars = some (text, after) ↔
      chars = doubled quote text ++ quote :: after ∧ after.head? ≠ some quote := by
  constructor
  · exact eq_doubled_of_readDoubled
  · rintro ⟨rfl, ends⟩
    exact readDoubled_doubled quote text after ends

end Text

namespace Dialect

/-- Read a quoted name at the start of a text: the name, and what stands behind it. -/
def readName (dialect : Dialect) (chars : List Char) : Option (String × List Char) :=
  (Text.readQuoted dialect.quoteMarks.1 dialect.quoteMarks.2 chars).map fun (name, after) =>
    (String.ofList name, after)

variable {dialect : Dialect} {chars after : List Char} {name : String}

theorem toList_quote (dialect : Dialect) (name : String) (after : List Char) :
    (dialect.quote name).toList ++ after = dialect.quoteMarks.1 ::
      (Text.doubled dialect.quoteMarks.2 name.toList ++ dialect.quoteMarks.2 :: after) := by
  simp [quote, Text.quoted]

/-- A name is read exactly where it is quoted and does not go on. -/
theorem readName_eq_some_iff :
    dialect.readName chars = some (name, after) ↔
      chars = (dialect.quote name).toList ++ after ∧
        after.head? ≠ some dialect.quoteMarks.2 := by
  rw [toList_quote]
  constructor
  · intro read
    obtain ⟨⟨content, behind⟩, found, same⟩ := Option.map_eq_some_iff.mp read
    cases same
    rw [String.toList_ofList]
    cases chars with
    | nil => cases found
    | cons c rest =>
        rw [Text.readQuoted] at found
        split at found
        · rename_i opening
          obtain ⟨parts, ends⟩ := Text.readDoubled_eq_some_iff.mp found
          exact ⟨by rw [opening, parts], ends⟩
        · cases found
  · rintro ⟨rfl, ends⟩
    rw [readName, Text.readQuoted, if_pos rfl, Text.readDoubled_doubled _ _ _ ends]
    simp

theorem readName_quote (name : String) (ends : after.head? ≠ some dialect.quoteMarks.2) :
    dialect.readName ((dialect.quote name).toList ++ after) = some (name, after) :=
  readName_eq_some_iff.mpr ⟨rfl, ends⟩

theorem quote_injective (dialect : Dialect) : Function.Injective dialect.quote := by
  intro name other same
  have ends : ([] : List Char).head? ≠ some dialect.quoteMarks.2 := nofun
  have read := readName_quote name ends
  rw [same, readName_quote other ends] at read
  cases read
  rfl

theorem length_lt_quote (dialect : Dialect) (name : String) :
    name.toList.length < (dialect.quote name).toList.length := by
  have shape := dialect.toList_quote name []
  rw [List.append_nil] at shape
  have longer := Text.length_le_doubled dialect.quoteMarks.2 name.toList
  rw [shape, List.length_cons, List.length_append, List.length_singleton]
  omega

theorem quote_ne_self (dialect : Dialect) (name : String) : dialect.quote name ≠ name := by
  intro same
  have longer := dialect.length_lt_quote name
  rw [same] at longer
  exact Nat.lt_irrefl _ longer

theorem dot_ends (dialect : Dialect) (rest : List Char) :
    ('.' :: rest).head? ≠ some dialect.quoteMarks.2 := by
  rw [List.head?_cons]
  cases dialect <;> decide

/-- Two qualified columns are the same only if their aliases and their names are. -/
theorem qualify_injective (dialect : Dialect) : Function.Injective2 dialect.qualify := by
  intro aliasName otherAlias column otherColumn same
  have parts : ∀ aliasName column, (dialect.qualify aliasName column).toList =
      (dialect.quote aliasName).toList ++ '.' :: (dialect.quote column).toList := by
    simp [qualify]
  have read := readName_quote aliasName (dialect.dot_ends (dialect.quote column).toList)
  rw [← parts, same, parts, readName_quote otherAlias (dialect.dot_ends _)] at read
  obtain ⟨rfl, behind⟩ := Prod.mk.inj (Option.some.inj read)
  refine ⟨rfl, dialect.quote_injective ?_⟩
  exact String.toList_inj.mp (List.cons.inj behind).2.symm

/-- Quoted names delimit themselves: a reader that knows the marks of the dialect reads a name and
leaves what follows exactly where the name was quoted and the closing mark does not follow. No two
names are hence quoted alike, quoting again gives another text, and a qualified column has one alias
and one name. -/
theorem quote_delimits_itself (dialect : Dialect) :
    (∀ chars name after, dialect.readName chars = some (name, after) ↔
      chars = (dialect.quote name).toList ++ after ∧
        after.head? ≠ some dialect.quoteMarks.2) ∧
    Function.Injective dialect.quote ∧
    (∀ name, dialect.quote (dialect.quote name) ≠ dialect.quote name) ∧
    Function.Injective2 dialect.qualify :=
  ⟨fun _ _ _ => readName_eq_some_iff, dialect.quote_injective,
    fun name => dialect.quote_ne_self (dialect.quote name), dialect.qualify_injective⟩

end Dialect

end PagedJoins
