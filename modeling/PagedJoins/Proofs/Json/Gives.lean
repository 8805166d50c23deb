import PagedJoins.Json.Reader
import PagedJoins.Proofs.Outcome

/-!
# What readers give

A reader that succeeds says something about its document, whoever wrote that. Wherever in the
document it starts, it stops further on in the document, and its result has a property that it was
built to have. This is said of a reader by one predicate with a rule for each way to put readers
together, so what a composed reader gives is proved along its text, and members of an object by
induction on how many there may be.
-/

namespace PagedJoins.Json

/-! ## Splitting a text -/

theorem readUnits_suffix {chars rest : List Char} {units : List Unit16}
    (read : readUnits chars = some (units, rest)) : rest <:+ chars := by
  fun_induction readUnits chars generalizing units with
  | case1 => cases read
  | case2 a b c d behind ih =>
      obtain ⟨unit, -, later⟩ := Option.bind_eq_some_iff.mp read
      obtain ⟨⟨others, after⟩, found, same⟩ := Option.bind_eq_some_iff.mp later
      cases same
      exact (ih found).trans ⟨['\\', 'u', a, b, c, d], rfl⟩
  | case3 c behind other ih =>
      obtain ⟨letter, -, later⟩ := Option.bind_eq_some_iff.mp read
      obtain ⟨⟨others, after⟩, found, same⟩ := Option.bind_eq_some_iff.mp later
      cases same
      exact (ih found).trans ⟨['\\', c], rfl⟩
  | case4 =>
      cases read
      exact List.suffix_cons _ _
  | case5 => cases read
  | case6 c behind _ _ _ _ ih =>
      obtain ⟨⟨others, after⟩, found, same⟩ := Option.bind_eq_some_iff.mp read
      cases same
      exact (ih found).trans (List.suffix_cons c behind)

theorem spanDigits_suffix (chars : List Char) : (Text.spanDigits chars).2 <:+ chars :=
  List.dropWhile_suffix _

theorem readFraction?_suffix {chars fraction rest : List Char}
    (read : readFraction? chars = some (fraction, rest)) : rest <:+ chars := by
  unfold readFraction? at read
  split at read
  · dsimp only at read
    split at read
    · cases read
    · cases read
      exact (spanDigits_suffix _).trans (List.suffix_cons _ _)
  · cases read
    exact List.suffix_refl _

theorem readExponent?_suffix {chars rest : List Char} {exponent : Option Int}
    (read : readExponent? chars = some (exponent, rest)) : rest <:+ chars := by
  unfold readExponent? at read
  split at read
  · cases read
    exact List.suffix_refl _
  · rename_i c behind
    split at read
    · simp only [Option.ite_none_left_eq_some, Option.some.injEq, Prod.mk.injEq] at read
      obtain ⟨-, -, rfl⟩ := read
      refine (spanDigits_suffix _).trans (List.IsSuffix.trans ?_ (List.suffix_cons c behind))
      split
      · exact List.suffix_cons _ _
      · exact List.suffix_cons _ _
      · exact List.suffix_refl _
    · cases read
      exact List.suffix_refl _

theorem readNumeral?_suffix {chars rest : List Char} {numeral : Numeral}
    (read : readNumeral? chars = some (numeral, rest)) : rest <:+ chars := by
  unfold readNumeral? at read
  simp only [Option.ite_none_left_eq_some, Option.bind_eq_bind, Option.bind_eq_some_iff] at read
  obtain ⟨-, ⟨fraction, behind⟩, first, ⟨exponent, after⟩, second, same⟩ := read
  cases same
  refine (readExponent?_suffix second).trans ((readFraction?_suffix first).trans
    ((spanDigits_suffix _).trans ?_))
  split
  · exact List.suffix_cons _ _
  · exact List.suffix_refl _

namespace Reader

variable {α β σ : Type} {document : List Char}

/-- Within the document, does the reader stop further on whenever it succeeds, and with a result
of this property? -/
def Gives (document : List Char) (reader : Reader α) (property : α → Prop) : Prop :=
  ∀ chars, chars <:+ document → ∀ value rest, reader.run chars = .ok (value, rest) →
    rest <:+ document ∧ property value

/-! ## Rules -/

variable {reader : Reader α} {property weaker : α → Prop} {later : β → Prop}

theorem gives_pure {value : α} (known : property value) :
    Gives document (pure value) property := by
  rintro chars inside _ _ ⟨⟩
  exact ⟨inside, known⟩

theorem gives_throw (fault : Fault) : Gives document (throw fault : Reader α) property := by
  rintro chars inside value rest ⟨⟩

theorem gives_malformed : Gives document (malformed : Reader α) property :=
  gives_throw .malformed

theorem Gives.bind (gives : Gives document reader property) {next : α → Reader β}
    (follows : ∀ value, property value → Gives document (next value) later) :
    Gives document (reader >>= next) later := by
  intro chars inside result rest read
  rw [StateT.run_bind] at read
  obtain ⟨⟨value, behind⟩, first, second⟩ := exists_of_bind_eq_ok read
  obtain ⟨stays, known⟩ := gives chars inside value behind first
  exact follows value known behind stays result rest second

theorem Gives.imp (gives : Gives document reader property)
    (weakens : ∀ value, property value → weaker value) : Gives document reader weaker :=
  fun chars inside value rest read =>
    (gives chars inside value rest read).imp id (weakens value)

theorem Gives.map (gives : Gives document reader property) {f : α → β}
    (keeps : ∀ value, property value → later (f value)) :
    Gives document (f <$> reader) later := by
  rw [map_eq_pure_bind]
  exact gives.bind fun value known => gives_pure (keeps value known)

theorem Gives.ite {condition : Prop} [Decidable condition] {other : Reader α}
    (yes : condition → Gives document reader property)
    (no : ¬ condition → Gives document other property) :
    Gives document (if condition then reader else other) property := by
  split
  · exact yes ‹_›
  · exact no ‹_›

/-! ## Tokens -/

theorem gives_get :
    Gives document (get : Reader (List Char)) fun chars => chars <:+ document := by
  rintro chars inside _ _ ⟨⟩
  exact ⟨inside, inside⟩

theorem gives_modify {f : List Char → List Char} (shortens : ∀ chars, f chars <:+ chars) :
    Gives document (modify f : Reader Unit) fun _ => True := by
  rintro chars inside _ _ ⟨⟩
  exact ⟨(shortens chars).trans inside, trivial⟩

theorem gives_ofSplit {split : List Char → Option (α × List Char)}
    (shortens : ∀ {chars value rest}, split chars = some (value, rest) → rest <:+ chars) :
    Gives document (ofSplit split) fun value =>
      ∃ chars rest, chars <:+ document ∧ split chars = some (value, rest) := by
  refine gives_get.bind fun chars inside => ?_
  split
  · rename_i value rest found
    rintro _ _ _ _ ⟨⟩
    exact ⟨(shortens found).trans inside, chars, rest, inside, found⟩
  · exact gives_malformed

theorem gives_ofOption {option : Option α} (known : ∀ value, option = some value → property value) :
    Gives document (ofOption option) property := by
  cases option with
  | none => exact gives_malformed
  | some value => exact gives_pure (known value rfl)

theorem gives_space : Gives document space fun _ => True :=
  gives_modify fun _ => List.dropWhile_suffix _

theorem gives_advance : Gives document advance fun _ => True :=
  gives_modify fun _ => List.drop_suffix _ _

theorem gives_peek : Gives document peek fun _ => True := by
  refine gives_space.bind fun _ _ => gives_get.bind fun chars _ => ?_
  cases chars with
  | nil => exact gives_malformed
  | cons c rest => exact gives_pure trivial

theorem gives_expect (c : Char) : Gives document (expect c) fun _ => True :=
  gives_peek.bind fun _ _ => .ite (fun _ => gives_advance) fun _ => gives_malformed

theorem gives_word (chars : List Char) : Gives document (word chars) fun _ => True :=
  gives_space.bind fun _ _ => gives_get.bind fun _ _ =>
    .ite (fun _ => gives_modify fun _ => List.drop_suffix _ _) fun _ => gives_malformed

theorem gives_units : Gives document units fun _ => True :=
  (gives_expect '"').bind fun _ _ =>
    (gives_ofSplit readUnits_suffix).imp fun _ _ => trivial

theorem gives_string : Gives document string fun _ => True :=
  gives_units.bind fun _ _ =>
    (gives_ofOption fun _ _ => trivial).bind fun _ (_ : True) => gives_pure trivial

/-- Is the number spelled in the text? -/
def Spells (document : List Char) (numeral : Numeral) : Prop :=
  ∃ chars rest, chars <:+ document ∧ readNumeral? chars = some (numeral, rest)

/-- A number that is read is spelled in the document. -/
theorem gives_numeral : Gives document numeral (Spells document) :=
  gives_space.bind fun _ _ => gives_ofSplit readNumeral?_suffix

theorem gives_bool : Gives document bool fun _ => True :=
  gives_peek.bind fun _ _ =>
    .ite (fun _ => (gives_word _).bind fun _ _ => gives_pure trivial)
      fun _ => (gives_word _).bind fun _ _ => gives_pure trivial

/-! ## Objects -/

theorem gives_members {name : Reader α} {step : σ → α → Reader σ} {kept : σ → Prop}
    (named : Gives document name fun _ => True)
    (keeps : ∀ state key, kept state → Gives document (step state key) kept) (fuel : Nat)
    {state : σ} (start : kept state) :
    Gives document (members name step fuel state) kept := by
  induction fuel generalizing state with
  | zero => exact gives_malformed
  | succ fuel ih =>
      refine named.bind fun key _ => (gives_expect ':').bind fun _ _ =>
        (keeps state key start).bind fun next known => gives_peek.bind fun c _ =>
        gives_advance.bind fun _ _ => ?_
      exact .ite (fun _ => ih known) fun _ => .ite (fun _ => gives_pure known)
        fun _ => gives_malformed

theorem gives_object {step : σ → String → Reader σ} {kept : σ → Prop}
    (keeps : ∀ state key, kept state → Gives document (step state key) kept) {state : σ}
    (start : kept state) : Gives document (object step state) kept :=
  (gives_expect '\x7b').bind fun _ _ => gives_peek.bind fun _ _ =>
    .ite (fun _ => gives_advance.bind fun _ _ => gives_pure start)
      fun _ => gives_get.bind fun _ _ => gives_members gives_string keeps _ start

/-- The value of a document is what its reader gives. -/
theorem Gives.of_document {chars : List Char} {value : α} (gives : Gives chars reader property)
    (read : reader.document chars = .ok value) : property value := by
  obtain ⟨⟨result, rest⟩, first, second⟩ := exists_of_bind_eq_ok read
  have known := (gives chars (List.suffix_refl _) result rest first).2
  dsimp only at second
  split at second
  · cases second
    exact known
  · cases second

end Reader

end PagedJoins.Json
