import Mathlib.Data.List.Forall2
import PagedJoins.Proofs.Sql.Precedence
import PagedJoins.Sql.Conditions

/-!
# What lists of conditions mean

The conditions of a list are written one after another with `AND` between them, and no
parentheses around them. The last alternative of each goes on with the first one of the next. So
the text is the conjunction of the conditions as long as an `OR` in any of them stands in
parentheses, or there is only one. It is never stronger than the conjunction, but a condition
with an `OR` of its own makes it weaker.
-/

namespace PagedJoins

/-! ## Texts -/

namespace Dialect

variable (dialect : Dialect) (assignment : List Lexeme → Truth) (text : String)

/-- Is the text read as a condition? -/
def Reads : Prop :=
  ∃ alternatives, dialect.alternatives? text = some alternatives

/-- Is the text read as a condition whose `OR`s all stand in parentheses? -/
def IsConjunct : Prop :=
  ∃ factors, dialect.alternatives? text = some [factors]

/-- Is the text read as a condition that is true, given the truth of the atoms? -/
def Holds : Prop :=
  ∃ alternatives, dialect.alternatives? text = some alternatives ∧
    anyTruth assignment alternatives = .yes

variable {dialect assignment text}

theorem IsConjunct.reads (conjunct : dialect.IsConjunct text) : dialect.Reads text :=
  conjunct.imp' ([·]) fun _ read => read

theorem holds_iff {alternatives : Alternatives}
    (read : dialect.alternatives? text = some alternatives) :
    dialect.Holds assignment text ↔ anyTruth assignment alternatives = .yes := by
  simp [Holds, read]

end Dialect

/-! ## Conjunctions -/

/-- Conditions with an `AND` between each and the next. -/
def joinedAll : List Alternatives → Alternatives
  | [] => []
  | [alternatives] => alternatives
  | alternatives :: others => joined alternatives (joinedAll others)

section Truth

variable (assignment : List Lexeme → Truth)

/-- Conditions that hold do so joined. -/
theorem anyTruth_joinedAll_of_yes {readings : List Alternatives} (nonempty : readings ≠ [])
    (each : ∀ reading ∈ readings, anyTruth assignment reading = .yes) :
    anyTruth assignment (joinedAll readings) = .yes := by
  induction readings with
  | nil => exact absurd rfl nonempty
  | cons reading readings ih =>
      obtain ⟨here, later⟩ := List.forall_mem_cons.mp each
      cases readings with
      | nil => exact here
      | cons next readings =>
          exact anyTruth_joined_of_yes assignment here (ih (List.cons_ne_nil _ _) later)

theorem joinedAll_singletons (part : List Factor) (parts : List (List Factor)) :
    joinedAll ((part :: parts).map ([·])) = [(part :: parts).flatten] := by
  induction parts generalizing part with
  | nil => simp [joinedAll]
  | cons next parts ih =>
      have later := ih next
      rw [List.map_cons] at later ⊢
      rw [List.map_cons, joinedAll, later]
      · rfl
      · exact List.cons_ne_nil _ _

theorem anyTruth_singleton_flatten (parts : List (List Factor)) :
    anyTruth assignment [parts.flatten] = .yes ↔
      ∀ part ∈ parts, anyTruth assignment [part] = .yes := by
  simp only [anyTruth_eq_yes, List.mem_singleton, exists_eq_left, allTruth_eq_yes,
    List.mem_flatten]
  exact ⟨fun all part member factor inside => all factor ⟨part, member, inside⟩,
    fun all factor ⟨part, member, inside⟩ => all part member factor inside⟩

end Truth

variable {dialect : Dialect} {parts : List String} {readings : List Alternatives}

/-- Are the texts read as these conditions, one by one? -/
def ReadAs (dialect : Dialect) (parts : List String) (readings : List Alternatives) : Prop :=
  List.Forall₂ (fun part alternatives => dialect.alternatives? part = some alternatives)
    parts readings

/-- A conjunction is read as its parts joined. -/
theorem alternatives?_conjunction (each : ReadAs dialect parts readings)
    (nonempty : parts ≠ []) :
    dialect.alternatives? (conjunction parts) = some (joinedAll readings) := by
  rw [conjunction, if_neg nonempty]
  induction each with
  | nil => exact absurd rfl nonempty
  | @cons part reading parts readings read each ih =>
      cases each with
      | nil => simpa [joinedAll] using read
      | cons read' each =>
          rw [String.intercalate_cons_cons]
          exact Dialect.alternatives?_and read (ih (List.cons_ne_nil _ _))

/-- The atom of the condition that always holds. -/
def tautologyAtom : List Lexeme :=
  [.other ['1'], .other ['>'], .other ['0']]

theorem alternatives?_tautology (dialect : Dialect) :
    dialect.alternatives? tautology = some [[.atom tautologyAtom]] := by
  cases dialect <;> rfl

/-- How a text means the conjunction of its parts, where `1>0` is true. -/
structure Conjoins (dialect : Dialect) (text : String) (parts : List String) : Prop where
  /-- Without parts, the text always holds. -/
  none : parts = [] → text = "1>0"
  /-- The last alternative of each part goes on with the first one of the next. -/
  readAs : parts ≠ [] → ∃ readings, ReadAs dialect parts readings ∧
    dialect.alternatives? text = some (joinedAll readings)
  /-- The text is never stronger than the conjunction. -/
  of_all : ∀ assignment, assignment tautologyAtom = .yes →
    (∀ part ∈ parts, dialect.Holds assignment part) → dialect.Holds assignment text
  /-- It is the conjunction if no part stands beside another with an `OR` outside parentheses. -/
  iff_all : (parts.length = 1 ∨ ∀ part ∈ parts, dialect.IsConjunct part) →
    ∀ assignment, assignment tautologyAtom = .yes →
    (dialect.Holds assignment text ↔ ∀ part ∈ parts, dialect.Holds assignment part)

theorem exists_readAs (readable : ∀ part ∈ parts, dialect.Reads part) :
    ∃ readings, ReadAs dialect parts readings := by
  induction parts with
  | nil => exact ⟨[], .nil⟩
  | cons part parts ih =>
      obtain ⟨⟨reading, read⟩, later⟩ := List.forall_mem_cons.mp readable
      obtain ⟨readings, each⟩ := ih later
      exact ⟨reading :: readings, .cons read each⟩

theorem holds_iff_of_readAs (each : ReadAs dialect parts readings)
    (assignment : List Lexeme → Truth) :
    (∀ part ∈ parts, dialect.Holds assignment part) ↔
      ∀ reading ∈ readings, anyTruth assignment reading = .yes := by
  induction each with
  | nil => simp
  | cons read each ih => simp [Dialect.holds_iff read, ih]

/-- Conjuncts are read as conditions of one alternative each. -/
theorem exists_singletons_of_readAs (each : ReadAs dialect parts readings)
    (conjuncts : ∀ part ∈ parts, dialect.IsConjunct part) :
    ∃ factors : List (List Factor), readings = factors.map ([·]) := by
  induction each with
  | nil => exact ⟨[], rfl⟩
  | cons read each ih =>
      obtain ⟨⟨first, read'⟩, later⟩ := List.forall_mem_cons.mp conjuncts
      obtain ⟨factors, rfl⟩ := ih later
      cases read.symm.trans read'
      exact ⟨first :: factors, rfl⟩

theorem conjoins_nil (dialect : Dialect) : Conjoins dialect (conjunction []) [] := by
  have holds : ∀ assignment : List Lexeme → Truth, assignment tautologyAtom = .yes →
      dialect.Holds assignment (conjunction []) := by
    intro assignment always
    refine (Dialect.holds_iff (alternatives?_tautology dialect)).mpr ?_
    simp [anyTruth, allTruth, Factor.truth, always]
  exact {
    none := fun _ => rfl
    readAs := fun nonempty => absurd rfl nonempty
    of_all := fun assignment always _ => holds assignment always
    iff_all := fun _ assignment always => by simp [holds assignment always] }

theorem conjoins_conjunction (readable : ∀ part ∈ parts, dialect.Reads part) :
    Conjoins dialect (conjunction parts) parts := by
  rcases eq_or_ne parts [] with rfl | nonempty
  · exact conjoins_nil dialect
  obtain ⟨readings, each⟩ := exists_readAs readable
  have read := alternatives?_conjunction each nonempty
  have nonempty' : readings ≠ [] := by
    rintro rfl
    cases each
    exact nonempty rfl
  refine ⟨fun empty => absurd empty nonempty, fun _ => ⟨readings, each, read⟩, ?_, ?_⟩
  · intro assignment _ all
    rw [Dialect.holds_iff read]
    exact anyTruth_joinedAll_of_yes assignment nonempty'
      ((holds_iff_of_readAs each assignment).mp all)
  · rintro (single | conjuncts) assignment _
    · obtain ⟨part, rfl⟩ := List.length_eq_one_iff.mp single
      simp [conjunction]
    · obtain ⟨factors, rfl⟩ := exists_singletons_of_readAs each conjuncts
      obtain ⟨first, others, rfl⟩ : ∃ first others, factors = first :: others :=
        List.exists_cons_of_ne_nil fun none => nonempty' (by rw [none]; rfl)
      rw [Dialect.holds_iff read, joinedAll_singletons, anyTruth_singleton_flatten,
        holds_iff_of_readAs each]
      simp

/-! ## Lists of conditions -/

namespace Conditions

/-- A step in building up a list of conditions. -/
inductive Step where
  | joinKey (text : String)
  | scope (text : String)
  | push (text : Option String)
  deriving DecidableEq, Repr

/-- The list after a step. -/
def Step.apply (conditions : Conditions) : Step → Conditions
  | joinKey text => conditions.setJoinKey text
  | scope text => conditions.setScope text
  | push text => conditions.push text

/-- The condition that a step brings in, if its text is not blank. -/
def Step.part? : Step → Option String
  | joinKey text | scope text => condition? text
  | push text => text.bind condition?

/-- The predicate that a step adds. -/
def Step.predicate? : Step → Option String
  | joinKey _ | scope _ => none
  | push text => text.bind condition?

/-- The list after some steps. -/
def after (steps : List Step) : Conditions :=
  steps.foldl Step.apply {}

/-- Are all conditions of a list of this sort? -/
structure All (good : String → Prop) (conditions : Conditions) : Prop where
  joinKey : ∀ part ∈ conditions.joinKey, good part
  scope : ∀ part ∈ conditions.scope, good part
  predicates : ∀ part ∈ conditions.predicates, good part

variable {good : String → Prop} {conditions : Conditions}

theorem All.apply (all : conditions.All good) {step : Step}
    (brings : ∀ part ∈ step.part?, good part) : (step.apply conditions).All good := by
  obtain ⟨joinKey, scope, predicates⟩ := all
  cases step with
  | joinKey text => exact ⟨brings, scope, predicates⟩
  | scope text => exact ⟨joinKey, brings, predicates⟩
  | push text =>
      refine ⟨joinKey, scope, fun part member => ?_⟩
      rcases List.mem_append.mp member with earlier | last
      · exact predicates part earlier
      · exact brings part (Option.mem_toList.mp last)

/-- Steps that bring in conditions of a sort make a list of that sort. -/
theorem All.foldl (all : conditions.All good) {steps : List Step}
    (brings : ∀ step ∈ steps, ∀ part ∈ step.part?, good part) :
    (steps.foldl Step.apply conditions).All good := by
  induction steps generalizing conditions with
  | nil => exact all
  | cons step steps ih =>
      obtain ⟨here, later⟩ := List.forall_mem_cons.mp brings
      exact ih (all.apply here) later

theorem All.correlated (all : conditions.All good) :
    ∀ part ∈ conditions.joinKey.toList ++ conditions.predicates, good part := by
  intro part member
  rcases List.mem_append.mp member with key | predicate
  · exact all.joinKey part (Option.mem_toList.mp key)
  · exact all.predicates part predicate

theorem All.uncorrelated (all : conditions.All good) :
    ∀ part ∈ conditions.scope.toList ++ conditions.predicates, good part := by
  intro part member
  rcases List.mem_append.mp member with standIn | predicate
  · exact all.scope part (Option.mem_toList.mp standIn)
  · exact all.predicates part predicate

theorem predicates_foldl (conditions : Conditions) (steps : List Step) :
    (steps.foldl Step.apply conditions).predicates =
      conditions.predicates ++ steps.filterMap Step.predicate? := by
  induction steps generalizing conditions with
  | nil => simp
  | cons step steps ih =>
      rw [List.foldl_cons, ih]
      cases step with
      | joinKey text => rfl
      | scope text => rfl
      | push text =>
          simp only [Step.apply, push, List.append_assoc, List.filterMap_cons, Step.predicate?]
          cases text.bind condition? <;> rfl

/-- What the text of a list of conditions means, built up in any number of steps from texts that are
read as conditions. The last alternative of each condition goes on with the first one of the next.
So the list holds whenever all of its conditions do. It holds only then if every `OR` stands in
parentheses, or there is a single condition; and likewise where the parent cannot be seen. -/
theorem render_conjoins (dialect : Dialect) (steps : List Step)
    (readable : ∀ step ∈ steps, ∀ part ∈ step.part?, dialect.Reads part) :
    (after steps).predicates = steps.filterMap Step.predicate? ∧
      Conjoins dialect (after steps).render
        ((after steps).joinKey.toList ++ (after steps).predicates) ∧
      Conjoins dialect (after steps).renderUncorrelated
        ((after steps).scope.toList ++ (after steps).predicates) := by
  have all : (after steps).All dialect.Reads :=
    All.foldl ⟨by simp, by simp, by simp⟩ readable
  refine ⟨predicates_foldl {} steps, conjoins_conjunction ?_, conjoins_conjunction ?_⟩
  · intro part member
    rcases List.mem_append.mp member with key | predicate
    · exact all.joinKey part (Option.mem_toList.mp key)
    · exact all.predicates part predicate
  · intro part member
    rcases List.mem_append.mp member with scope | predicate
    · exact all.scope part (Option.mem_toList.mp scope)
    · exact all.predicates part predicate

/-- What ties posts to their users. -/
def ownPosts : String :=
  "\"u\".\"id\" = \"p\".\"user_id\""

/-- A filter with an `OR` in parentheses. -/
def shortOrMarked : String :=
  "(\"p\".words BETWEEN 1 AND 99 or \"p\".title = 'this OR that')"

/-- Neither condition makes the other one weaker. -/
theorem render_conjoins_shortOrMarked :
    let steps : List Step := [.joinKey ownPosts, .push (some shortOrMarked)]
    (∀ step ∈ steps, ∀ part ∈ step.part?, Dialect.postgres.Reads part) ∧
      ∀ assignment, assignment tautologyAtom = .yes →
        (Dialect.postgres.Holds assignment (after steps).render ↔
          Dialect.postgres.Holds assignment ownPosts ∧
          Dialect.postgres.Holds assignment shortOrMarked) := by
  intro steps
  have own : Dialect.postgres.IsConjunct ownPosts := ⟨_, rfl⟩
  have either : Dialect.postgres.IsConjunct shortOrMarked := ⟨_, rfl⟩
  have readable : ∀ step ∈ steps, ∀ part ∈ step.part?, Dialect.postgres.Reads part := by
    simp only [steps, List.forall_mem_cons, Step.part?, Option.bind_some]
    refine ⟨?_, ?_, nofun⟩
    · rintro part found
      cases (condition?_eq_some_iff.mp found).1
      exact own.reads
    · rintro part found
      cases (condition?_eq_some_iff.mp found).1
      exact either.reads
  refine ⟨readable, fun assignment always => ?_⟩
  have parts : (after steps).joinKey.toList ++ (after steps).predicates =
      [ownPosts, shortOrMarked] := rfl
  have conjoins := (render_conjoins .postgres steps readable).2.1
  rw [parts] at conjoins
  rw [conjoins.iff_all (.inr (by simp [own, either])) assignment always]
  simp

/-- A filter with an `OR` outside parentheses makes the condition before it weaker: the list holds
although that condition does not. -/
theorem render_weakened_by_or :
    ¬ ∀ assignment, assignment tautologyAtom = .yes →
      (Dialect.postgres.Holds assignment (after [.joinKey "a", .push (some "b OR c")]).render ↔
        ∀ part ∈ ["a", "b OR c"], Dialect.postgres.Holds assignment part) := by
  have written : (after [.joinKey "a", .push (some "b OR c")]).render = "a AND b OR c" := by decide
  have read : Dialect.postgres.alternatives? "a AND b OR c" =
      some [[.atom [.other ['a']], .atom [.other ['b']]], [.atom [.other ['c']]]] := rfl
  have read' : Dialect.postgres.alternatives? "a" = some [[.atom [.other ['a']]]] := rfl
  intro conjoins
  have key := (conjoins (fun atom => if atom = [.other ['a']] then .no else .yes) rfl).mp
    (by rw [written, Dialect.holds_iff read]; rfl) "a" (.head _)
  rw [Dialect.holds_iff read'] at key
  cases key

end Conditions

end PagedJoins
