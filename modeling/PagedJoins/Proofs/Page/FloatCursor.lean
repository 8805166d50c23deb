import PagedJoins.Proofs.Page.Cursor
import PagedJoins.Proofs.Value.Float

/-!
# Cursors with floats

A cursor of finite values whose columns differ can be written, and is read back pair by pair. Every
value comes back as it was, the floats of 32 bits among them; a float of 64 bits does so if few
digits are written for it, and else may come back as a number close to it.
-/

namespace PagedJoins.Cursor

/-- The pairs of a cursor, and what they come back as. -/
def ComesBackAs (cursor read : Cursor) : Prop :=
  List.Forall₂ (fun written pair => pair.1 = written.1 ∧ written.2.ComesBackAs pair.2)
    cursor.pairs read.pairs

/-- A cursor comes back as it was, unless many digits are written for one of its floats. -/
theorem ComesBackAs.eq_of_short {cursor read : Cursor} (reads : cursor.ComesBackAs read)
    (short : ∀ pair ∈ cursor.pairs, ∀ x, pair.2 = .double x → x.IsShort) : read = cursor := by
  obtain ⟨pairs⟩ := cursor
  obtain ⟨pairs'⟩ := read
  have same : pairs' = pairs := by
    unfold ComesBackAs at reads
    dsimp only at reads short
    induction reads with
    | nil => rfl
    | cons first others ih =>
        have value := first.2.eq_of_short (short _ (List.mem_cons_self ..))
        rw [ih fun pair member => short pair (List.mem_cons_of_mem _ member),
          Prod.ext first.1 value]
  rw [same]

/-- A cursor of finite values whose columns differ is written and read back, with a float of 64 bits
off by fewer than five units of its last place and every other value as it was; if few digits are
written for every float of 64 bits, it is the same cursor. -/
theorem decode_encode_finite (cursor : Cursor)
    (finite : ∀ pair ∈ cursor.pairs, pair.2.isFinite = true)
    (distinct : (cursor.pairs.map Prod.fst).Nodup) :
    ∃ text read, cursor.encode = .ok text ∧ decode text = .ok read ∧
      cursor.ComesBackAs read ∧
      ((∀ pair ∈ cursor.pairs, ∀ x, pair.2 = .double x → x.IsShort) → read = cursor) := by
  have each : ∀ value : Value, ∃ read, value.isFinite = true →
      value.ComesBackAs read ∧ Value.reader.Reads value.toJson.toList read := by
    intro value
    by_cases number : value.isFinite = true
    · obtain ⟨read, found⟩ := Value.reads_of_isFinite number
      exact ⟨read, fun _ => found⟩
    · exact ⟨value, fun known => absurd known number⟩
  choose back reads using each
  have decoded := decode_padded_of_reads back (fun pair member => (reads _ (finite pair member)).2)
    distinct (rfl : Text.isBlank "" = true) (rfl : Text.isBlank "" = true)
  rw [String.empty_append, String.append_empty] at decoded
  have comesBack : cursor.ComesBackAs (cursor.mapValues back) := by
    rw [ComesBackAs, mapValues, List.forall₂_map_right_iff, List.forall₂_same]
    exact fun pair member => ⟨rfl, (reads _ (finite pair member)).1⟩
  exact ⟨_, _, encode_of_finite finite, decoded, comesBack, comesBack.eq_of_short⟩

/-- Floats at the edges: the one of 32 bits whose decimal is closest to a tie, the negative zero of
64 bits, and a number that is written with one digit. -/
def edgeFloats : Cursor where
  pairs := [("a", .float (.finite false 11420669 (-107) (by decide))), ("b", .double (.zero true)),
    ("c", .double (.finite false 7205759403792794 (-56) (by decide)))]

/-- The floats at the edges come back as they were. -/
theorem decode_encode_finite_edgeFloats :
    (∀ pair ∈ edgeFloats.pairs, pair.2.isFinite = true) ∧
      (edgeFloats.pairs.map Prod.fst).Nodup ∧
      ∃ text, edgeFloats.encode = .ok text ∧ decode text = .ok edgeFloats := by
  refine ⟨by decide, by decide, ?_⟩
  obtain ⟨text, read, written, decoded, -, kept⟩ :=
    decode_encode_finite edgeFloats (by decide) (by decide)
  have tenth : (Binary.finite false 7205759403792794 (-56) (by decide) : Binary .double).IsShort :=
    ⟨by decide +kernel, by decide +kernel⟩
  have short : ∀ pair ∈ edgeFloats.pairs, ∀ x, pair.2 = .double x → x.IsShort := by
    intro pair member x same
    simp only [edgeFloats, List.mem_cons, List.not_mem_nil, or_false] at member
    rcases member with rfl | rfl | rfl
    · cases same
    · cases same
      exact Binary.isShort_zero true
    · cases same
      exact tenth
  exact ⟨text, written, kept short ▸ decoded⟩

/-- The greatest odd number of the width comes back as the even one below it. -/
theorem decode_encode_double_rounded :
    ¬ ∀ (x : Binary .double) (column : String), x.isFinite = true →
      ∃ text y, (Cursor.mk [(column, .double x)]).encode = .ok text ∧
        decode text = .ok ⟨[(column, .double y)]⟩ ∧ y.compare? x = some .eq := by
  intro kept
  let odd : Binary .double := .finite false 9007199254740991 0 (by decide)
  let even : Binary .double := .finite false 9007199254740990 0 (by decide)
  obtain ⟨text, y, written, decoded, same⟩ := kept odd "x" rfl
  have read : (Cursor.mk [("x", .double odd)]).encode.bind decode =
      .ok ⟨[("x", .double even)]⟩ := by
    decide +kernel
  rw [written] at read
  cases decoded.symm.trans read
  exact absurd same (by decide +kernel)

end PagedJoins.Cursor
