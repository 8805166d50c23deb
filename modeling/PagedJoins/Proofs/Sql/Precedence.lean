import Mathlib.Data.List.Basic
import PagedJoins.Proofs.Sql.Lexeme
import PagedJoins.Proofs.Sql.Truth

/-!
# Connectives and precedence

`AND` binds tighter than `OR`. So a condition is a list of alternatives, and each alternative a
list of factors, of which those in parentheses are conditions of their own and all others are
atoms. A condition is read lexeme by lexeme; what was read before it on the same level stays in
front of it, and its own first alternative goes on with the last one before.
-/

namespace PagedJoins

/-- A factor of a condition. -/
inductive Factor where
  | atom (lexemes : List Lexeme)
  /-- A condition in parentheses: alternatives, and the factors of each. -/
  | group (alternatives : List (List Factor))

/-- A condition: alternatives, and the factors of each. -/
abbrev Alternatives := List (List Factor)

/-! ## Truth -/

section Truth

variable (assignment : List Lexeme → Truth)

mutual

/-- The truth of a factor, given that of the atoms. -/
def Factor.truth : Factor → Truth
  | .atom lexemes => assignment lexemes
  | .group alternatives => anyTruth alternatives

/-- The truth of some alternatives. -/
def anyTruth : List (List Factor) → Truth
  | [] => .no
  | factors :: alternatives => (allTruth factors).or (anyTruth alternatives)

/-- The truth of some factors together. -/
def allTruth : List Factor → Truth
  | [] => .yes
  | factor :: factors => (Factor.truth factor).and (allTruth factors)

end

end Truth

/-! ## Reading -/

/-- The last factor, as far as it was read. -/
structure LastFactor where
  lexemes : List Lexeme := []
  /-- What the factor is, if it consists of parentheses and what is in them. -/
  group : Option Factor := none
  /-- Does a `BETWEEN` wait for its `AND`? -/
  awaits : Bool := false

namespace LastFactor

/-- Go on with some lexemes, which may be a group if nothing stands beside them. -/
def add (last : LastFactor) (lexemes : List Lexeme) (group : Option Factor) : LastFactor :=
  { last with
    lexemes := last.lexemes ++ lexemes
    group := if last.lexemes = [] then group else none }

/-- The factor, if there is one and it is complete. -/
def finish? (last : LastFactor) : Option Factor :=
  if last.awaits ∨ last.lexemes = [] then none
  else some (last.group.getD (.atom last.lexemes))

end LastFactor

/-- What was read on one level: alternatives, the factors of one more, and the last factor. -/
structure Level where
  alternatives : Alternatives := []
  factors : List Factor := []
  last : LastFactor := {}

namespace Level

/-- The condition that was read. -/
def finish? (level : Level) : Option Alternatives :=
  level.last.finish?.map fun factor => level.alternatives ++ [level.factors ++ [factor]]

/-- Read a lexeme that neither opens nor closes anything. -/
def step (level : Level) : Lexeme → Option Level
  | .and =>
    if level.last.awaits then
      some { level with last := { level.last.add [.and] none with awaits := false } }
    else
      level.last.finish?.map fun factor =>
        { level with factors := level.factors ++ [factor], last := {} }
  | .or => level.finish?.map fun alternatives => { alternatives }
  | .between =>
    if level.last.awaits then none
    else some { level with last := { level.last.add [.between] none with awaits := true } }
  | lexeme => some { level with last := level.last.add [lexeme] none }

end Level

/-- Something that was opened and is not closed yet. -/
structure Opened where
  brace : Brace
  level : Level := {}
  /-- All lexemes since it was opened. -/
  lexemes : List Lexeme

/-- What is braced, as a factor, if it is a condition in parentheses. There may be nothing in the
parentheses, but half a condition may not. -/
def Opened.group? (inner : Opened) : Option (Option Factor) :=
  match inner.brace with
  | .parentheses =>
    if inner.lexemes.length = 1 then some none
    else inner.level.finish?.map fun alternatives => some (.group alternatives)
  | .caseWords => some none

/-- What was read of a condition: its own level, and what is open in it, the innermost first. -/
structure Parse where
  level : Level := {}
  opened : List Opened := []

namespace Parse

/-- Read some lexemes on the innermost level. -/
def onLevel (parse : Parse) (lexemes : List Lexeme) (change : Level → Option Level) :
    Option Parse :=
  match parse.opened with
  | [] => (change parse.level).map fun level => { level }
  | inner :: outer => (change inner.level).map fun level =>
    { parse with opened := { inner with level, lexemes := inner.lexemes ++ lexemes } :: outer }

/-- Read what was braced as a part of the last factor. -/
def close (parse : Parse) (lexemes : List Lexeme) (group : Option Factor) : Option Parse :=
  parse.onLevel lexemes fun level => some { level with last := level.last.add lexemes group }

/-- Read a lexeme. -/
def step (parse : Parse) : Lexeme → Option Parse
  | .opening brace =>
    some { parse with opened := { brace, lexemes := [.opening brace] } :: parse.opened }
  | .closing brace =>
    match parse.opened with
    | [] => none
    | inner :: outer =>
      if inner.brace = brace then
        inner.group?.bind fun group =>
          close { parse with opened := outer } (inner.lexemes ++ [.closing brace]) group
      else
        none
  | lexeme => parse.onLevel [lexeme] (·.step lexeme)

/-- The condition that was read, if nothing is left open. -/
def finish? (parse : Parse) : Option Alternatives :=
  if parse.opened.isEmpty then parse.level.finish? else none

end Parse

/-- The condition that a text is read as. -/
def Dialect.alternatives? (dialect : Dialect) (text : String) : Option Alternatives := do
  let lexemes ← dialect.lexemes? text.toList
  let parse ← lexemes.foldlM Parse.step {}
  parse.finish?

/-! ## What stands before a condition -/

/-- Two conditions with an `AND` between them: the last alternative of the one goes on with the
first alternative of the other. -/
def joined : Alternatives → Alternatives → Alternatives
  | [factors], first :: others => (factors ++ first) :: others
  | factors :: front, back => factors :: joined front back
  | [], back => back

theorem joined_append (front : Alternatives) (factors first : List Factor)
    (others : Alternatives) :
    joined (front ++ [factors]) (first :: others) = front ++ (factors ++ first) :: others := by
  induction front with
  | nil => rfl
  | cons before front ih =>
      rw [List.cons_append, List.cons_append, ← ih, joined.eq_def]
      cases front <;> rfl

variable (alternatives : Alternatives) (factors : List Factor)

namespace Level

/-- What was read, with alternatives and factors before it. -/
def behind : Level → Level
  | ⟨[], later, last⟩ => ⟨alternatives, factors ++ later, last⟩
  | ⟨first :: others, later, last⟩ =>
    ⟨alternatives ++ (factors ++ first) :: others, later, last⟩

theorem behind_with_last (level : Level) (last : LastFactor) :
    behind alternatives factors { level with last } =
      { behind alternatives factors level with last } := by
  obtain ⟨_ | ⟨first, others⟩, later, _⟩ := level <;> rfl

theorem last_behind (level : Level) : (level.behind alternatives factors).last = level.last := by
  obtain ⟨_ | ⟨first, others⟩, later, last⟩ := level <;> rfl

theorem finish?_behind (level : Level) :
    (level.behind alternatives factors).finish? =
      level.finish?.map (joined (alternatives ++ [factors])) := by
  obtain ⟨_ | ⟨first, others⟩, later, last⟩ := level
  · cases read : last.finish? with
    | none => simp [behind, finish?, read]
    | some factor => simp [behind, finish?, read, joined_append]
  · cases read : last.finish? with
    | none => simp [behind, finish?, read]
    | some factor => simp [behind, finish?, read, joined_append]

theorem behind_goesOn (level : Level) (factor : Factor) :
    ({ behind alternatives factors level with
        factors := (behind alternatives factors level).factors ++ [factor], last := {} } : Level) =
      behind alternatives factors
        { level with factors := level.factors ++ [factor], last := {} } := by
  obtain ⟨_ | ⟨first, others⟩, later, _⟩ := level
  · simp [behind]
  · rfl

theorem behind_complete {level : Level} {complete : Alternatives}
    (read : level.finish? = some complete) :
    behind alternatives factors { alternatives := complete } =
      { alternatives := joined (alternatives ++ [factors]) complete } := by
  obtain ⟨factor, -, rfl⟩ := Option.map_eq_some_iff.mp read
  obtain ⟨_ | ⟨first, others⟩, later, _⟩ := level
  · simp [behind, joined_append]
  · simp [behind, joined_append]

/-- What stands before does not change how a lexeme is read. -/
theorem step_behind (level : Level) (lexeme : Lexeme) :
    (level.behind alternatives factors).step lexeme =
      (level.step lexeme).map (behind alternatives factors) := by
  cases lexeme with
  | and =>
      simp only [step, last_behind]
      split
      · simp [behind_with_last]
      · cases level.last.finish? with
        | none => rfl
        | some factor => simp [behind_goesOn]
  | or =>
      rw [step, step, finish?_behind]
      cases read : level.finish? with
      | none => rfl
      | some complete => simp [behind_complete alternatives factors read]
  | between =>
      simp only [step, last_behind]
      split
      · rfl
      · simp [behind_with_last]
  | opening | closing | other => simp [step, behind_with_last, last_behind]

end Level

namespace Parse

/-- What was read, with alternatives and factors before it. -/
def behind (parse : Parse) : Parse :=
  { parse with level := parse.level.behind alternatives factors }

theorem onLevel_behind (parse : Parse) (lexemes : List Lexeme) {change : Level → Option Level}
    (same : ∀ level, change (level.behind alternatives factors) =
      (change level).map (Level.behind alternatives factors)) :
    (parse.behind alternatives factors).onLevel lexemes change =
      (parse.onLevel lexemes change).map (behind alternatives factors) := by
  obtain ⟨level, _ | ⟨inner, outer⟩⟩ := parse
  · simp only [onLevel, behind, same]
    cases change level <;> rfl
  · simp only [onLevel, behind]
    cases change inner.level <;> rfl

theorem close_behind (parse : Parse) (lexemes : List Lexeme) (group : Option Factor) :
    (parse.behind alternatives factors).close lexemes group =
      (parse.close lexemes group).map (behind alternatives factors) := by
  apply onLevel_behind
  intro level
  simp [Level.behind_with_last, Level.last_behind]

theorem step_behind (parse : Parse) (lexeme : Lexeme) :
    (parse.behind alternatives factors).step lexeme =
      (parse.step lexeme).map (behind alternatives factors) := by
  have plain : ∀ lexeme, (parse.behind alternatives factors).onLevel [lexeme] (·.step lexeme) =
      (parse.onLevel [lexeme] (·.step lexeme)).map (behind alternatives factors) :=
    fun lexeme => onLevel_behind alternatives factors parse [lexeme]
      fun level => level.step_behind alternatives factors lexeme
  cases lexeme with
  | and | or | between | other => exact plain _
  | opening brace => rfl
  | closing brace =>
      obtain ⟨level, _ | ⟨inner, outer⟩⟩ := parse
      · rfl
      · simp only [step, behind]
        split
        · rw [Option.map_bind]
          apply congrArg
          funext group
          exact close_behind alternatives factors ⟨level, outer⟩ _ group
        · rfl

/-- What stands before a condition does not change how the condition is read. -/
theorem foldlM_behind (parse : Parse) (lexemes : List Lexeme) :
    lexemes.foldlM step (parse.behind alternatives factors) =
      (lexemes.foldlM step parse).map (behind alternatives factors) := by
  induction lexemes generalizing parse with
  | nil => rfl
  | cons lexeme lexemes ih =>
      rw [List.foldlM_cons, List.foldlM_cons, step_behind]
      cases parse.step lexeme with
      | none => rfl
      | some parse => exact ih parse

theorem finish?_behind (parse : Parse) :
    (parse.behind alternatives factors).finish? =
      parse.finish?.map (joined (alternatives ++ [factors])) := by
  obtain ⟨level, _ | ⟨inner, outer⟩⟩ := parse
  · exact level.finish?_behind alternatives factors
  · rfl

/-- Behind a condition that is complete, an `AND` goes on with its last alternative. -/
theorem step_and {parse : Parse} {front : Alternatives} (read : parse.finish? = some front) :
    ∃ alternatives factors, front = alternatives ++ [factors] ∧
      parse.step .and = some (behind alternatives factors {}) := by
  obtain ⟨⟨alternatives, factors, last⟩, _ | ⟨inner, outer⟩⟩ := parse
  · obtain ⟨factor, complete, rfl⟩ := Option.map_eq_some_iff.mp read
    refine ⟨alternatives, factors ++ [factor], rfl, ?_⟩
    have settled : last.awaits = false := by
      cases awaits : last.awaits with
      | false => rfl
      | true => simp [LastFactor.finish?, awaits] at complete
    simp [step, onLevel, Level.step, behind, Level.behind, settled, complete]
  · cases read

end Parse

/-- A text with an `AND` between two conditions is read as these two joined. -/
theorem Dialect.alternatives?_and {dialect : Dialect} {front back : String}
    {alternatives others : Alternatives} (read : dialect.alternatives? front = some alternatives)
    (read' : dialect.alternatives? back = some others) :
    dialect.alternatives? (front ++ " AND " ++ back) = some (joined alternatives others) := by
  obtain ⟨lexemes, scanned, rest⟩ := Option.bind_eq_some_iff.mp read
  obtain ⟨parse, parsed, complete⟩ := Option.bind_eq_some_iff.mp rest
  obtain ⟨lexemes', scanned', rest'⟩ := Option.bind_eq_some_iff.mp read'
  obtain ⟨parse', parsed', complete'⟩ := Option.bind_eq_some_iff.mp rest'
  obtain ⟨before, factors, rfl, goesOn⟩ := Parse.step_and complete
  have whole : dialect.lexemes? (front ++ " AND " ++ back).toList =
      some (lexemes ++ Lexeme.and :: lexemes') := by
    have shape : (front ++ " AND " ++ back).toList =
        front.toList ++ ' ' :: ("AND".toList ++ ' ' :: back.toList) := by simp
    rw [shape]
    exact lexemes?_append_blank scanned (lexemes?_append_blank (lexemes?_and dialect) scanned')
  have run : (lexemes ++ Lexeme.and :: lexemes').foldlM Parse.step {} =
      some (parse'.behind before factors) := by
    have later := Parse.foldlM_behind before factors {} lexemes'
    rw [parsed'] at later
    simp [List.foldlM_append, parsed, goesOn, later]
  have finished := Parse.finish?_behind before factors parse'
  rw [complete'] at finished
  simp only [alternatives?, whole, Option.bind_eq_bind, Option.bind_some, run, finished,
    Option.map_some]

/-! ## The truth of joined conditions -/

section Truth

variable (assignment : List Lexeme → Truth)

theorem allTruth_eq_yes {factors : List Factor} :
    allTruth assignment factors = .yes ↔ ∀ factor ∈ factors, factor.truth assignment = .yes := by
  induction factors with
  | nil => simp [allTruth]
  | cons factor factors ih => simp [allTruth, Truth.and_eq_yes, ih]

theorem anyTruth_eq_yes {alternatives : Alternatives} :
    anyTruth assignment alternatives = .yes ↔
      ∃ factors ∈ alternatives, allTruth assignment factors = .yes := by
  induction alternatives with
  | nil => simp [anyTruth]
  | cons factors alternatives ih => simp [anyTruth, Truth.or_eq_yes, ih]

/-- Two conditions that hold do so joined: the joined one is never stronger. -/
theorem anyTruth_joined_of_yes {front back : Alternatives}
    (holds : anyTruth assignment front = .yes) (holds' : anyTruth assignment back = .yes) :
    anyTruth assignment (joined front back) = .yes := by
  obtain ⟨first, others, rfl⟩ : ∃ first others, back = first :: others := by
    cases back with
    | nil => cases holds'
    | cons first others => exact ⟨first, others, rfl⟩
  obtain ⟨before, factors, rfl⟩ := (List.eq_nil_or_concat' front).resolve_left (by
    rintro rfl
    cases holds)
  rw [joined_append]
  simp only [anyTruth_eq_yes, List.mem_append, List.mem_cons, List.not_mem_nil, or_false] at *
  obtain ⟨chosen, earlier | rfl, together⟩ := holds
  · exact ⟨chosen, .inl earlier, together⟩
  · obtain ⟨chosen', rfl | later, together'⟩ := holds'
    · refine ⟨chosen ++ chosen', .inr (.inl rfl), ?_⟩
      rw [allTruth_eq_yes] at *
      intro factor member
      exact (List.mem_append.mp member).elim (together factor) (together' factor)
    · exact ⟨chosen', .inr (.inr later), together'⟩

end Truth

end PagedJoins
