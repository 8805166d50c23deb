import PagedJoins.Proofs.Sql.Conjunction
import PagedJoins.Proofs.Sql.Truth
import PagedJoins.Sql.Batch
import PagedJoins.Sql.Cast
import PagedJoins.Sql.PagedSelect

/-!
# Who writes a condition

A condition is put together of words that are always the same, and of what is not: names, which are
quoted, values, which are written as literals, and texts that somebody has said. The words have no
dollar sign in them, so nothing can speak of the column that counts all rows but for names, values
and texts that were handed in.
-/

namespace PagedJoins

/-! ## Sources -/

/-- Where the parts of a text that are not always the same come from: the names and values that are
known, and the texts that somebody has said. -/
structure Sources where
  name : String → Prop
  value : Value → Prop
  said : String → Prop

/-- Are a table and its alias known? -/
structure Sources.KnowsTable (sources : Sources) (table aliasName : String) : Prop where
  table : sources.name table
  aliasName : sources.name aliasName

/-- Are the names in an order known? -/
structure Order.Known (sources : Sources) (order : Order) : Prop where
  table : sources.name order.table
  columns : ∀ sort ∈ order.columns, sources.name sort.column

/-- Are the names and the values of a seek known? -/
structure Seek.Known (sources : Sources) (seek : Seek) : Prop where
  table : sources.name seek.table
  columns : ∀ sort ∈ seek.columns, sources.name sort.column
  values : ∀ value ∈ seek.values, sources.value value

/-- Is a text put together of words without a dollar sign, known names and values, and texts that
were said? -/
inductive Dialect.Composes (dialect : Dialect) (sources : Sources) : String → Prop where
  | word {s : String} (plain : '$' ∉ s.toList) : Composes dialect sources s
  | name {s : String} (known : sources.name s) : Composes dialect sources (dialect.quote s)
  | literal {value : Value} (known : sources.value value) :
      Composes dialect sources (dialect.literal value)
  | said {s : String} (given : sources.said s) : Composes dialect sources s
  | append {front back : String} (first : Composes dialect sources front)
      (last : Composes dialect sources back) : Composes dialect sources (front ++ back)

theorem Conditions.All.push {good : String → Prop} {conditions : Conditions}
    (all : conditions.All good) {text : Option String}
    (brings : ∀ part, text = some part → good part) : (conditions.push text).All good := by
  change ((Step.push text).apply conditions).All good
  apply all.apply
  intro part brought
  obtain ⟨given, same, shown⟩ := Option.bind_eq_some_iff.mp brought
  obtain ⟨rfl, -⟩ := condition?_eq_some_iff.mp shown
  exact brings given same

namespace Dialect.Composes

variable {dialect : Dialect} {sources : Sources}

/-! ## Lists -/

theorem intercalate {separator : String} {parts : List String}
    (between : '$' ∉ separator.toList) (each : ∀ part ∈ parts, dialect.Composes sources part) :
    dialect.Composes sources (separator.intercalate parts) := by
  induction parts with
  | nil => exact .word (by simp)
  | cons part parts ih =>
      obtain ⟨first, others⟩ := List.forall_mem_cons.mp each
      cases parts with
      | nil => simpa using first
      | cons next parts =>
          rw [String.intercalate_cons_cons]
          exact .append (.append first (.word between)) (ih others)

theorem conjunction {parts : List String} (each : ∀ part ∈ parts, dialect.Composes sources part) :
    dialect.Composes sources (PagedJoins.conjunction parts) := by
  unfold PagedJoins.conjunction
  split
  · exact .word (by decide)
  · exact intercalate (by decide) each

/-! ## Keys -/

theorem qualify {aliasName column : String} (table : sources.name aliasName)
    (known : sources.name column) : dialect.Composes sources (dialect.qualify aliasName column) :=
  .append (.append (.name table) (.word (by decide))) (.name known)

theorem plain_castType {kind : ValueKind} {type : String}
    (found : dialect.castType? kind = some type) : '$' ∉ type.toList := by
  cases kind <;> cases dialect <;> cases found <;> decide

theorem castLike {expr : String} (composed : dialect.Composes sources expr) (sample : Value) :
    dialect.Composes sources (dialect.castLike expr sample) := by
  unfold Dialect.castLike
  split
  · rename_i type found
    apply append _ (.word (by decide))
    apply append _ (.word (plain_castType found))
    apply append _ (.word (by decide))
    exact .append (.word (by decide)) composed
  · exact composed

theorem inList {expr : String} {values : List Value} (composed : dialect.Composes sources expr)
    (known : ∀ value ∈ values, sources.value value) :
    dialect.Composes sources (dialect.inList expr values) := by
  have each : ∀ text ∈ values.map dialect.literal, dialect.Composes sources text := by
    intro text member
    obtain ⟨value, listed, rfl⟩ := List.mem_map.mp member
    exact .literal (known value listed)
  apply append _ (.word (by decide))
  apply append _ (intercalate (by decide) each)
  exact .append composed (.word (by decide))

theorem batchColumn {column : String} (known : sources.name column) :
    dialect.Composes sources (dialect.batchColumn column) :=
  .append (.append (.word (by decide)) (.word (by decide))) (.name known)

/-! ## Seeks -/

theorem comparator (operator : Comparator) : dialect.Composes sources operator.symbol := by
  cases operator <;> exact .word (by decide)

theorem compare {left right : String} (operator : Comparator)
    (here : dialect.Composes sources left) (there : dialect.Composes sources right) :
    dialect.Composes sources (Condition.compare left operator right).render := by
  apply append _ there
  apply append _ (.word (by decide))
  apply append _ (comparator operator)
  exact .append here (.word (by decide))

theorem row {terms : List String} (each : ∀ term ∈ terms, dialect.Composes sources term) :
    dialect.Composes sources (Condition.row terms) := by
  apply append _ (.word (by decide))
  exact .append (.word (by decide)) (intercalate (by decide) each)

theorem connective {left word right : String} (plain : '$' ∉ word.toList)
    (here : dialect.Composes sources left) (there : dialect.Composes sources right) :
    dialect.Composes sources ("(" ++ left ++ word ++ right ++ ")") := by
  apply append _ (.word (by decide))
  apply append _ there
  apply append _ (.word plain)
  exact .append (.word (by decide)) here

theorem stepwise {columns : List (String × Direction)} {bounds : List String}
    {condition : Condition String String}
    (built : Seek.stepwise? columns bounds = some condition)
    (named : ∀ column ∈ columns, dialect.Composes sources column.1)
    (bounded : ∀ bound ∈ bounds, dialect.Composes sources bound) :
    dialect.Composes sources condition.render := by
  induction columns generalizing bounds condition with
  | nil => cases built
  | cons column columns ih =>
      obtain ⟨here, later⟩ := List.forall_mem_cons.mp named
      cases bounds with
      | nil => cases columns <;> cases built
      | cons bound bounds =>
          obtain ⟨first, others⟩ := List.forall_mem_cons.mp bounded
          cases columns with
          | nil =>
              cases built
              exact compare _ here first
          | cons next columns =>
              rw [Seek.stepwise?_cons_cons] at built
              obtain ⟨rest, made, rfl⟩ := Option.map_eq_some_iff.mp built
              apply connective (by decide) (compare _ here first)
              exact connective (by decide) (compare _ here first) (ih made later others)

/-- The condition of columns and bounds is composed if they are, whether rows are compared or not.
-/
theorem condition {comparesRows : Bool} {columns : List (String × Direction)}
    {bounds : List String} {condition : Condition String String}
    (built : Seek.condition? comparesRows columns bounds = some condition)
    (named : ∀ column ∈ columns, dialect.Composes sources column.1)
    (bounded : ∀ bound ∈ bounds, dialect.Composes sources bound) :
    dialect.Composes sources condition.render := by
  have terms : ∀ term ∈ columns.map (·.1), dialect.Composes sources term := by
    intro term member
    obtain ⟨column, listed, rfl⟩ := List.mem_map.mp member
    exact named column listed
  unfold Seek.condition? at built
  split at built
  · split at built
    · cases built
      apply append _ (row bounded)
      apply append _ (.word (by decide))
      apply append _ (comparator _)
      exact .append (row terms) (.word (by decide))
    · exact stepwise built named bounded
  · exact stepwise built named bounded

theorem seek {seek : Seek} {text : String} (known : seek.Known sources)
    (rendered : seek.render? dialect = some text) : dialect.Composes sources text := by
  obtain ⟨found, built, result⟩ := Option.bind_eq_some_iff.mp rendered
  cases result
  apply condition built
  · intro column member
    obtain ⟨sort, listed, rfl⟩ := List.mem_map.mp member
    exact qualify known.table (known.columns sort listed)
  · intro bound member
    obtain ⟨value, listed, rfl⟩ := List.mem_map.mp member
    exact .literal (known.values value listed)

/-! ## Pages -/

theorem conditions {conditions : Conditions} (all : conditions.All (dialect.Composes sources)) :
    dialect.Composes sources conditions.render ∧
      dialect.Composes sources conditions.renderUncorrelated :=
  ⟨conjunction all.correlated, conjunction all.uncorrelated⟩

/-- The `WHERE` of a page is composed if its conditions are, and its seek is known. -/
theorem filter {select : PagedSelect} (all : select.conditions.All (dialect.Composes sources))
    (past : ∀ seek, select.seek = some seek → seek.Known sources) (isAttached : Bool) :
    dialect.Composes sources (select.filter dialect isAttached) := by
  have whole : (select.allConditions dialect).All (dialect.Composes sources) := by
    unfold PagedSelect.allConditions
    split
    · rename_i sought same
      apply all.push
      intro text rendered
      exact seek (past sought same) rendered
    · exact all
  unfold PagedSelect.filter
  split
  · exact (conditions whole).2
  · exact (conditions whole).1

end Dialect.Composes

end PagedJoins
