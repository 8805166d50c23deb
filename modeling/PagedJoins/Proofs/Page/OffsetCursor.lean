import Mathlib.Data.List.Basic
import PagedJoins.Page.Offset
import PagedJoins.Proofs.Json.Text
import PagedJoins.Proofs.Text.Base64
import PagedJoins.Proofs.Text.Numeral

/-!
# Positions in cursors

The cursor of a position is read as that position, with or without white space around it, and no
text is read but those that spell a position. The page behind it starts one row further on, as long
as there is a count for that.
-/

namespace PagedJoins

namespace Text

theorem readNat?_eq_some_iff {chars : List Char} {n : Nat} :
    readNat? chars = some n ↔ IsRun Char.isDigit chars ∧ ofDigits chars = n := by
  rw [readNat?, Option.ite_none_right_eq_some, Option.some.injEq, List.all_eq_true]
  rfl

end Text

namespace OffsetCursor

/-! ## Texts of positions -/

/-- Is this how a position is spelled: a fixed word, perhaps a plus, and digits for the position? -/
inductive Spells (position : UInt64) : List Char → Prop where
  | mk {sign digits : List Char} (signs : sign ∈ [[], ['+']])
      (run : Text.IsRun Char.isDigit digits) (denoted : Text.ofDigits digits = position.toNat) :
      Spells position ("arrayconnection:".toList ++ (sign ++ digits))

variable {position : UInt64} {chars : List Char} {text : String}

theorem readNat?_bind_eq_some_iff :
    ((Text.readNat? chars).bind fun n =>
      if n < UInt64.size then some (UInt64.ofNat n) else none) = some position ↔
    Text.IsRun Char.isDigit chars ∧ Text.ofDigits chars = position.toNat := by
  rw [← Text.readNat?_eq_some_iff, Option.bind_eq_some_iff]
  constructor
  · rintro ⟨n, read, counted⟩
    rw [Option.ite_none_right_eq_some, Option.some.injEq] at counted
    obtain ⟨small, rfl⟩ := counted
    rwa [UInt64.toNat_ofNat_of_lt' small]
  · intro read
    refine ⟨position.toNat, read, ?_⟩
    rw [if_pos position.toNat_lt, UInt64.ofNat_toNat]

/-- A position is read from digits, perhaps after a plus. -/
theorem position?_eq_some_iff :
    position? chars = some position ↔ ∃ sign digits, chars = sign ++ digits ∧
      sign ∈ [[], ['+']] ∧ Text.IsRun Char.isDigit digits ∧
      Text.ofDigits digits = position.toNat := by
  constructor
  · intro read
    unfold position? at read
    split at read
    · rename_i rest
      exact ⟨['+'], rest, rfl, by simp, readNat?_bind_eq_some_iff.mp read⟩
    · exact ⟨[], chars, rfl, by simp, readNat?_bind_eq_some_iff.mp read⟩
  · rintro ⟨sign, digits, rfl, signs, denoted⟩
    have read := readNat?_bind_eq_some_iff.mpr denoted
    simp only [List.mem_cons, List.not_mem_nil, or_false] at signs
    rcases signs with rfl | rfl
    · have unsigned : ∀ rest, digits ≠ '+' :: rest := by
        rintro rest rfl
        exact absurd (denoted.1.2 '+' (List.mem_cons_self ..)) (by decide)
      rw [List.nil_append]
      unfold position?
      split
      · exact absurd rfl (unsigned _)
      · exact read
    · exact read

theorem marked_eq_some_iff :
    ((marker.toList.isPrefixOf? chars).bind position?) = some position ↔
      Spells position chars := by
  rw [Option.bind_eq_some_iff]
  constructor
  · rintro ⟨rest, marked, read⟩
    rw [List.isPrefixOf?_eq_some_iff_append_eq] at marked
    obtain ⟨sign, digits, rfl, signs, run, denoted⟩ := position?_eq_some_iff.mp read
    rw [← marked]
    exact .mk signs run denoted
  · rintro ⟨signs, run, denoted⟩
    exact ⟨_, List.isPrefixOf?_eq_some_iff_append_eq.mpr rfl,
      position?_eq_some_iff.mpr ⟨_, _, rfl, signs, run, denoted⟩⟩

/-- A position is read from the Base64 of a text that spells it. -/
theorem decode_eq_ok_iff :
    decode text = .ok position ↔
      ∃ content : String, Spells position content.toList ∧
        Text.trimChars text.toList = Text.Base64.encode (Text.Utf8.encode content) := by
  constructor
  · intro read
    unfold decode at read
    split at read
    · cases read
    rename_i bytes coded
    split at read
    · cases read
    rename_i content spelled
    dsimp only at read
    split at read
    · rename_i n marked
      cases read
      refine ⟨content, marked_eq_some_iff.mp marked, ?_⟩
      rw [Text.Base64.eq_encode_of_decode coded, Text.Utf8.eq_encode_of_decode? spelled]
    · cases read
  · rintro ⟨content, spells, trimmed⟩
    have marked : (do
        let rest ← marker.toList.isPrefixOf? content.toList
        position? rest) = some position :=
      marked_eq_some_iff.mpr spells
    simp only [decode, trimmed, Text.Base64.decode_encode, Text.Utf8.decode?_encode, marked]

/-- Whatever is not read as a position is malformed. -/
theorem kind_of_decode {fault : CursorFault} (refused : decode text = .error fault) :
    fault.kind = .malformed := by
  unfold decode at refused
  split at refused
  · cases refused
    rfl
  split at refused
  · cases refused
    rfl
  dsimp only at refused
  split at refused
  · cases refused
  · cases refused
    rfl

/-! ## Cursors of positions -/

theorem spells_decimal (position : UInt64) :
    Spells position (marker ++ Text.decimal position.toNat).toList := by
  have run : Text.IsRun Char.isDigit (Text.digits position.toNat) :=
    ⟨Text.digits_ne_nil _, fun c => Text.isDigit_of_mem_digits⟩
  rw [String.toList_append, Text.toList_decimal]
  exact Spells.mk (by decide : [] ∈ [[], ['+']]) run (Text.ofDigits_digits _)

theorem decode_padded (position : UInt64) {before after : String}
    (blankBefore : Text.isBlank before = true) (blankAfter : Text.isBlank after = true) :
    decode (before ++ encode position ++ after) = .ok position := by
  refine decode_eq_ok_iff.mpr ⟨_, spells_decimal position, ?_⟩
  simp only [encode, String.toList_append, String.toList_ofList]
  exact Text.trimChars_padded (List.all_eq_true.mp blankBefore)
    (Text.Base64.encode_not_whiteSpace _) (List.all_eq_true.mp blankAfter)

theorem positionAfter_encode {position : UInt64} (countable : position.toNat + 1 < UInt64.size) :
    ∃ next, positionAfter (encode position) = .ok next ∧ next.toNat = position.toNat + 1 := by
  have read := @decode_padded position "" "" rfl rfl
  rw [String.empty_append, String.append_empty] at read
  refine ⟨nextCount position, ?_, ?_⟩
  · rw [positionAfter, read]
    rfl
  · rw [toNat_nextCount, if_pos countable]

/-- Exactly the texts of positions are accepted. The cursor of a position is read as the position,
with or without white space around it. A text is read as a position just if between white space it
is the Base64 of the marker and the position in ASCII digits, where a plus may stand before the
digits and zeros may lead them. Every other text is malformed. -/
theorem decode_accepts_positions :
    (∀ (position : UInt64) (before after : String), Text.isBlank before = true →
      Text.isBlank after = true → decode (before ++ encode position ++ after) = .ok position) ∧
    ∀ text, (∀ position, decode text = .ok position ↔ ∃ before content after : String,
        text = before ++ String.ofList (Text.Base64.encode (Text.Utf8.encode content)) ++ after ∧
        Text.isBlank before = true ∧ Text.isBlank after = true ∧
        Spells position content.toList) ∧
      ∀ fault, decode text = .error fault → fault.kind = .malformed := by
  refine ⟨fun position _ _ => decode_padded position, ?_⟩
  intro text
  refine ⟨?_, fun _ => kind_of_decode⟩
  intro position
  rw [decode_eq_ok_iff]
  constructor
  · rintro ⟨content, spells, trimmed⟩
    obtain ⟨before, after, parts, blankBefore, blankAfter⟩ := Text.trimChars_parts text.toList
    refine ⟨String.ofList before, content, String.ofList after, ?_, ?_, ?_, spells⟩
    · apply String.toList_inj.mp
      rw [parts, trimmed]
      simp
    · simpa [Text.isBlank] using blankBefore
    · simpa [Text.isBlank] using blankAfter
  · rintro ⟨before, content, after, rfl, blankBefore, blankAfter, spells⟩
    refine ⟨content, spells, ?_⟩
    simp only [String.toList_append, String.toList_ofList]
    exact Text.trimChars_padded (List.all_eq_true.mp blankBefore)
      (Text.Base64.encode_not_whiteSpace _) (List.all_eq_true.mp blankAfter)

end OffsetCursor

end PagedJoins
