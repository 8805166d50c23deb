import PagedJoins.Json.Record
import PagedJoins.Proofs.Json.Text
import PagedJoins.Proofs.Text.Listing

/-!
# Readers on written JSON

A reader reads a text for a value if it takes just that text, whatever follows, and
gives that value. Readers of tokens read what is written for them, and an object is read
member by member: what becomes of its members is a fold over them, and the fault that
ends the fold is the fault of the reader.
-/

namespace PagedJoins.Json.Reader

variable {α β σ : Type}

/-- The reader takes just `text`, whatever follows it, and gives `value`. -/
def Reads (reader : Reader α) (text : List Char) (value : α) : Prop :=
  ∀ rest, reader.run (text ++ rest) = .ok (value, rest)

/-! ## Sequencing -/

theorem run_bind_of_ok {reader : Reader α} {next : α → Reader β} {chars rest : List Char}
    {value : α} (read : reader.run chars = .ok (value, rest)) :
    (reader >>= next).run chars = (next value).run rest := by
  rw [StateT.run_bind, read]
  rfl

theorem run_bind_of_error {reader : Reader α} {next : α → Reader β} {chars : List Char}
    {fault : Fault} (failed : reader.run chars = .error fault) :
    (reader >>= next).run chars = .error fault := by
  rw [StateT.run_bind, failed]
  rfl

theorem Reads.map {reader : Reader α} {text : List Char} {value : α}
    (reads : reader.Reads text value) (f : α → β) : (f <$> reader).Reads text (f value) := by
  intro rest
  rw [map_eq_pure_bind, run_bind_of_ok (reads rest)]
  rfl

/-! ## Tokens -/

theorem run_space {c : Char} (solid : isSpace c = false) (rest : List Char) :
    space.run (c :: rest) = .ok ((), c :: rest) := by
  have stays : (c :: rest).dropWhile isSpace = c :: rest :=
    List.dropWhile_cons_of_neg (by simp [solid])
  rw [space, StateT.run_modify, stays]
  rfl

theorem run_peek {c : Char} (solid : isSpace c = false) (rest : List Char) :
    peek.run (c :: rest) = .ok (c, c :: rest) := by
  rw [peek, run_bind_of_ok (run_space solid rest)]
  rfl

theorem run_advance (c : Char) (rest : List Char) :
    advance.run (c :: rest) = .ok ((), rest) :=
  rfl

theorem run_get (chars : List Char) :
    (get : Reader (List Char)).run chars = .ok (chars, chars) :=
  rfl

theorem expect_reads {c : Char} (solid : isSpace c = false) : (expect c).Reads [c] () := by
  intro rest
  rw [List.singleton_append, expect, run_bind_of_ok (run_peek solid rest), if_pos rfl]
  exact run_advance c rest

theorem word_reads {c : Char} (solid : isSpace c = false) (chars : List Char) :
    (word (c :: chars)).Reads (c :: chars) () := by
  intro rest
  have found : (c :: chars).isPrefixOf (c :: chars ++ rest) = true :=
    List.isPrefixOf_iff_prefix.mpr (List.prefix_append _ _)
  rw [List.cons_append, word, run_bind_of_ok (run_space solid _),
    run_bind_of_ok (run_get _), ← List.cons_append, if_pos found, StateT.run_modify,
    List.drop_left]
  rfl

theorem bool_reads (b : Bool) :
    bool.Reads (if b then "true" else "false").toList b := by
  intro rest
  cases b with
  | true =>
      have word := word_reads (c := 't') (by decide) ['r', 'u', 'e']
      exact (run_bind_of_ok (run_peek (by decide) _)).trans (run_bind_of_ok (word rest))
  | false =>
      have word := word_reads (c := 'f') (by decide) ['a', 'l', 's', 'e']
      exact (run_bind_of_ok (run_peek (by decide) _)).trans (run_bind_of_ok (word rest))

theorem run_ofSplit {split : List Char → Option (α × List Char)} {chars rest : List Char}
    {value : α} (found : split chars = some (value, rest)) :
    (ofSplit split).run chars = .ok (value, rest) := by
  rw [ofSplit, run_bind_of_ok (run_get chars), found]
  rfl

theorem string_reads (text : String) : string.Reads (quote text).toList text := by
  intro rest
  have opened := expect_reads (c := '"') (by decide)
    (text.toList.flatMap escapeChar ++ '"' :: rest)
  have parts := run_ofSplit (readUnits_written text.toList rest)
  have units : units.run ((quote text).toList ++ rest) =
      .ok (text.toList.map .char, rest) := by
    rw [toList_quote, List.cons_append, List.append_assoc, Reader.units]
    exact (run_bind_of_ok opened).trans parts
  rw [string, run_bind_of_ok units, text?_chars]
  exact congrArg (fun text => Except.ok (text, rest)) (String.ofList_toList)

theorem signed_starts (negative : Bool) (n : Nat) :
    ∃ c tail, signChars negative ++ Text.digits n = c :: tail ∧ isSpace c = false := by
  cases negative with
  | true => exact ⟨'-', Text.digits n, rfl, by decide⟩
  | false =>
      cases written : Text.digits n with
      | nil => exact absurd written (Text.digits_ne_nil n)
      | cons c tail =>
          have digit : c.isDigit = true :=
            Text.isDigit_of_mem_digits (n := n) (by simp [written])
          refine ⟨c, tail, rfl, ?_⟩
          cases space : isSpace c with
          | false => rfl
          | true =>
              simp only [isSpace, Bool.or_eq_true, decide_eq_true_eq] at space
              rcases space with ((rfl | rfl) | rfl) | rfl <;> exact absurd digit (by decide)

theorem run_numeral (i : Int) {rest : List Char} (ends : EndsNumeral rest) :
    numeral.run ((Text.signedDecimal i).toList ++ rest) =
      .ok (⟨decide (i < 0), Text.digits i.natAbs, [], none⟩, rest) := by
  have read := readNumeral?_digits (decide (i < 0)) i.natAbs ends
  obtain ⟨c, tail, starts, solid⟩ := signed_starts (decide (i < 0)) i.natAbs
  rw [toList_signedDecimal, numeral]
  rw [starts, List.cons_append] at read ⊢
  rw [run_bind_of_ok (run_space solid _)]
  exact run_ofSplit read

/-! ## Objects -/

/-- The characters of a member, given the JSON of its value. -/
def memberChars (json : β → String) (member : String × β) : List Char :=
  (quote member.1).toList ++ ':' :: (json member.2).toList

/-- The characters of the members behind the first one, each with its comma. -/
def laterMembers (json : β → String) (members : List (String × β)) : List Char :=
  members.flatMap fun member => ',' :: memberChars json member

theorem toList_object (json : β → String) (first : String × β) (others : List (String × β)) :
    (Json.object ((first :: others).map fun (name, value) => (name, json value))).toList =
      '\x7b' :: (memberChars json first ++ laterMembers json others ++ ['\x7d']) := by
  rw [Json.object, List.map_map, List.map_cons, String.toList_append, String.toList_append,
    Text.toList_intercalate_cons]
  simp [Text.separated, laterMembers, memberChars]

/-- A step takes the written value of a member as `take` says: it stops behind it, or it
reports the fault. -/
def Takes (json : β → String) (step : σ → String → Reader σ)
    (take : σ → String × β → Except Fault σ) (member : String × β) : Prop :=
  ∀ state rest, (step state member.1).run ((json member.2).toList ++ rest) =
    (take state member).map fun next => (next, rest)

/-- What stands behind a member: a comma and more members, or the end of the object. -/
def afterMember (step : σ → String → Reader σ) (fuel : Nat) (state : σ) : Reader σ := do
  let next ← peek
  advance
  if next = ',' then members string step fuel state
  else if next = '\x7d' then return state
  else malformed

theorem run_members_succ {json : β → String} {step : σ → String → Reader σ}
    {take : σ → String × β → Except Fault σ} {member : String × β}
    (takes : Takes json step take member) (fuel : Nat) (state : σ) (tail : List Char) :
    (members string step (fuel + 1) state).run (memberChars json member ++ tail) =
      (take state member).bind fun next => (afterMember step fuel next).run tail := by
  have name := string_reads member.1 (':' :: ((json member.2).toList ++ tail))
  have colon : (expect ':').run (':' :: ((json member.2).toList ++ tail)) =
      .ok ((), (json member.2).toList ++ tail) :=
    expect_reads (by decide) _
  have taken := takes state tail
  rw [memberChars, List.append_assoc, List.cons_append, members, run_bind_of_ok name]
  rw [run_bind_of_ok colon]
  cases result : take state member with
  | error fault =>
      rw [result] at taken
      exact run_bind_of_error taken
  | ok next =>
      rw [result] at taken
      exact run_bind_of_ok taken

/-- The members of an object are taken one by one, up to the first fault. -/
theorem run_members {json : β → String} {step : σ → String → Reader σ}
    {take : σ → String × β → Except Fault σ} {first : String × β} {others : List (String × β)}
    (takes : ∀ member ∈ first :: others, Takes json step take member) {fuel : Nat}
    (enough : others.length < fuel) (state : σ) (rest : List Char) :
    (members string step fuel state).run
        (memberChars json first ++ (laterMembers json others ++ '\x7d' :: rest)) =
      ((first :: others).foldlM take state).map fun last => (last, rest) := by
  induction others generalizing first fuel state with
  | nil =>
      obtain ⟨fuel, rfl⟩ := Nat.exists_eq_add_one_of_ne_zero (Nat.ne_of_gt enough)
      rw [run_members_succ (takes first (List.mem_cons_self ..)), List.foldlM_cons]
      cases take state first with
      | error fault => rfl
      | ok next => rfl
  | cons second others ih =>
      have positive : fuel ≠ 0 := Nat.ne_of_gt (Nat.lt_of_le_of_lt (Nat.zero_le _) enough)
      obtain ⟨fuel, rfl⟩ := Nat.exists_eq_add_one_of_ne_zero positive
      rw [run_members_succ (takes first (List.mem_cons_self ..)), List.foldlM_cons]
      cases take state first with
      | error fault => rfl
      | ok next =>
          have comma : (afterMember step fuel next).run
                (laterMembers json (second :: others) ++ '\x7d' :: rest) =
              (members string step fuel next).run
                (memberChars json second ++ (laterMembers json others ++ '\x7d' :: rest)) := by
            rw [laterMembers, List.flatMap_cons, List.cons_append, List.cons_append,
              List.append_assoc]
            exact run_bind_of_ok (run_peek (by decide) _)
          have later : ∀ member ∈ second :: others, Takes json step take member :=
            fun member among => takes member (List.mem_cons_of_mem _ among)
          exact comma.trans (ih later (Nat.lt_of_succ_lt_succ enough) next)

theorem length_laterMembers (json : β → String) (members : List (String × β)) :
    members.length ≤ (laterMembers json members).length := by
  induction members with
  | nil => exact Nat.le_refl 0
  | cons member members ih =>
      rw [laterMembers, List.flatMap_cons, List.length_append, List.length_cons,
        List.length_cons]
      rw [laterMembers] at ih
      omega

/-- A written object is read as the fold of its members: its value is the last state, and
the first fault refuses it. -/
theorem run_object {json : β → String} {step : σ → String → Reader σ}
    {take : σ → String × β → Except Fault σ} {pairs : List (String × β)}
    (takes : ∀ pair ∈ pairs, Takes json step take pair) (state : σ) (rest : List Char) :
    (object step state).run
        ((Json.object (pairs.map fun (name, value) => (name, json value))).toList ++ rest) =
      (pairs.foldlM take state).map fun last => (last, rest) := by
  cases pairs with
  | nil =>
      have written : (Json.object []).toList ++ rest = '\x7b' :: '\x7d' :: rest := by
        simp [Json.object]
      have opened : (expect '\x7b').run ('\x7b' :: '\x7d' :: rest) = .ok ((), '\x7d' :: rest) :=
        expect_reads (by decide) _
      rw [List.map_nil, written, object, objectWith, run_bind_of_ok opened,
        run_bind_of_ok (run_peek (by decide) rest), if_pos rfl,
        run_bind_of_ok (run_advance _ rest)]
      rfl
  | cons first others =>
      generalize body : memberChars json first ++ (laterMembers json others ++ '\x7d' :: rest) =
        chars
      have written : (Json.object ((first :: others).map
            fun (name, value) => (name, json value))).toList ++ rest = '\x7b' :: chars := by
        rw [toList_object, ← body]
        simp
      have opened : (expect '\x7b').run ('\x7b' :: chars) = .ok ((), chars) :=
        expect_reads (by decide) chars
      obtain ⟨tail, quoted⟩ : ∃ tail, chars = '"' :: tail := by
        rw [← body, memberChars, toList_quote]
        exact ⟨_, rfl⟩
      have enough : others.length < chars.length := by
        have later := length_laterMembers json others
        rw [← body]
        simp only [List.length_append, List.length_cons]
        omega
      have peeked : peek.run chars = .ok ('"', chars) := by
        rw [quoted]
        exact run_peek (by decide) tail
      rw [written, object, objectWith, run_bind_of_ok opened, run_bind_of_ok peeked,
        if_neg (by decide), run_bind_of_ok (run_get chars)]
      rw [← run_members takes enough state rest, body]

end PagedJoins.Json.Reader
