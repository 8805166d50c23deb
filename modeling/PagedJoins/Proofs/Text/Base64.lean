import PagedJoins.Text.Base64
import PagedJoins.Text.Blank

/-!
# Base64 texts

Reading a Base64 text gives back the bytes that were written, whatever their number, and
no other text is read. The alphabet has no white space, so the white space around such a
text can be told from it and trimmed away.
-/

namespace PagedJoins.Text

namespace Base64

/-! ## The alphabet -/

@[simp] theorem sextet?_symbol {n : Nat} (bound : n < 64) :
    sextet? (symbol n) = some n := by
  revert n
  decide

theorem symbol_ne_padding {n : Nat} (bound : n < 64) : symbol n ≠ '=' := by
  revert n
  decide

theorem symbol_not_whiteSpace {n : Nat} (bound : n < 64) :
    whiteSpace.contains (symbol n) = false := by
  revert n
  decide

theorem symbol_of_sextet? {c : Char} {n : Nat} (read : sextet? c = some n) :
    n < 64 ∧ symbol n = c := by
  have bounds : ∀ {a b : Char}, a ≤ b ↔ a.toNat ≤ b.toNat := Char.le_def
  have code : ∀ m, m = c.toNat → Char.ofNat m = c := by
    rintro _ rfl
    exact Char.ofNat_toNat c
  unfold sextet? at read
  simp only [bounds] at read
  have known : 'A'.toNat = 65 ∧ 'Z'.toNat = 90 ∧ 'a'.toNat = 97 ∧ 'z'.toNat = 122 ∧
      '0'.toNat = 48 ∧ '9'.toNat = 57 := by decide
  obtain ⟨upperA, upperZ, lowerA, lowerZ, zero, nine⟩ := known
  rw [upperA, upperZ, lowerA, lowerZ, zero, nine] at read
  unfold symbol
  rw [upperA, lowerA, zero]
  split at read
  · cases read
    rw [if_pos (by omega)]
    exact ⟨by omega, code _ (by omega)⟩
  split at read
  · cases read
    rw [if_neg (by omega), if_pos (by omega)]
    exact ⟨by omega, code _ (by omega)⟩
  split at read
  · cases read
    rw [if_neg (by omega), if_neg (by omega), if_pos (by omega)]
    exact ⟨by omega, code _ (by omega)⟩
  split at read
  · rename_i plus
    cases read
    exact ⟨by decide, plus.symm⟩
  split at read
  · rename_i slash
    cases read
    exact ⟨by decide, slash.symm⟩
  · cases read

/-! ## Groups -/

theorem decodeOne_encoded (a : UInt8) :
    decodeOne (a.toNat * 16 / 64) (a.toNat * 16 % 64) = some [a] := by
  have joined : a.toNat * 16 / 64 * 64 + a.toNat * 16 % 64 = a.toNat * 16 := by omega
  simp [decodeOne, joined]

theorem decodeTwo_encoded (a b : UInt8) (bits : Nat)
    (packed : bits = (a.toNat * 256 + b.toNat) * 4) :
    decodeTwo (bits / 4096) (bits / 64 % 64) (bits % 64) = some [a, b] := by
  have joined : (bits / 4096 * 64 + bits / 64 % 64) * 64 + bits % 64 = bits := by omega
  have filled : bits % 4 = 0 := by omega
  have first : bits / 1024 = a.toNat := by
    have := b.toNat_lt
    omega
  have second : bits / 4 % 256 = b.toNat := by
    have := b.toNat_lt
    omega
  simp only [decodeTwo, joined, filled, if_true, first, second, UInt8.ofNat_toNat]

theorem decodeThree_encoded (a b c : UInt8) (bits : Nat)
    (packed : bits = (a.toNat * 256 + b.toNat) * 256 + c.toNat) :
    decodeThree (bits / 262144) (bits / 4096 % 64) (bits / 64 % 64) (bits % 64) =
      [a, b, c] := by
  have joined : ((bits / 262144 * 64 + bits / 4096 % 64) * 64 + bits / 64 % 64) * 64 +
      bits % 64 = bits := by omega
  have boundB := b.toNat_lt
  have boundC := c.toNat_lt
  have first : bits / 65536 = a.toNat := by omega
  have second : bits / 256 % 256 = b.toNat := by omega
  have third : bits % 256 = c.toNat := by omega
  simp only [decodeThree, joined, first, second, third, UInt8.ofNat_toNat]

section Groups

variable {x y z w : Nat} {bytes : List UInt8}

theorem encode_decodeOne (boundX : x < 64) (boundY : y < 64)
    (read : decodeOne x y = some bytes) : encode bytes = [symbol x, symbol y, '=', '='] := by
  simp only [decodeOne, Option.ite_none_right_eq_some, Option.some.injEq] at read
  obtain ⟨filled, rfl⟩ := read
  have small : (x * 64 + y) / 16 < 256 := by omega
  have joined : (x * 64 + y) / 16 * 16 = x * 64 + y := by omega
  have high : (x * 64 + y) / 64 = x := by omega
  have low : (x * 64 + y) % 64 = y := by omega
  simp only [encode, UInt8.toNat_ofNat_of_lt' small, joined, high, low]

theorem encode_decodeTwo (boundX : x < 64) (boundY : y < 64) (boundZ : z < 64)
    (read : decodeTwo x y z = some bytes) :
    encode bytes = [symbol x, symbol y, symbol z, '='] := by
  simp only [decodeTwo, Option.ite_none_right_eq_some, Option.some.injEq] at read
  generalize packed : (x * 64 + y) * 64 + z = bits at read
  obtain ⟨filled, rfl⟩ := read
  have first : bits / 1024 < 256 := by omega
  have second : bits / 4 % 256 < 256 := by omega
  have joined : (bits / 1024 * 256 + bits / 4 % 256) * 4 = bits := by omega
  have high : bits / 4096 = x := by omega
  have middle : bits / 64 % 64 = y := by omega
  have low : bits % 64 = z := by omega
  simp only [encode, UInt8.toNat_ofNat_of_lt' first, UInt8.toNat_ofNat_of_lt' second, joined,
    high, middle, low]

theorem encode_decodeThree (boundX : x < 64) (boundY : y < 64) (boundZ : z < 64)
    (boundW : w < 64) (bytes : List UInt8) :
    encode (decodeThree x y z w ++ bytes) =
      symbol x :: symbol y :: symbol z :: symbol w :: encode bytes := by
  generalize packed : ((x * 64 + y) * 64 + z) * 64 + w = bits
  have first : bits / 65536 < 256 := by omega
  have second : bits / 256 % 256 < 256 := by omega
  have third : bits % 256 < 256 := by omega
  have joined : (bits / 65536 * 256 + bits / 256 % 256) * 256 + bits % 256 = bits := by omega
  have group : bits / 262144 = x ∧ bits / 4096 % 64 = y ∧ bits / 64 % 64 = z ∧ bits % 64 = w := by
    omega
  simp only [decodeThree, packed, List.cons_append, List.nil_append, encode,
    UInt8.toNat_ofNat_of_lt' first, UInt8.toNat_ofNat_of_lt' second,
    UInt8.toNat_ofNat_of_lt' third, joined, group]

end Groups

/-! ## Whole texts -/

/-- Reading undoes writing. -/
theorem decode_encode (bytes : List UInt8) : decode (encode bytes) = some bytes := by
  induction bytes using encode.induct with
  | case1 => rfl
  | case2 a =>
      have bound := a.toNat_lt
      have high : a.toNat * 16 / 64 < 64 := by omega
      have low : a.toNat * 16 % 64 < 64 := by omega
      simp only [encode, decode]
      simp [sextet?_symbol high, sextet?_symbol low, decodeOne_encoded]
  | case3 a b =>
      have boundA := a.toNat_lt
      have boundB := b.toNat_lt
      generalize packed : (a.toNat * 256 + b.toNat) * 4 = bits
      have high : bits / 4096 < 64 := by omega
      have middle : bits / 64 % 64 < 64 := by omega
      have low : bits % 64 < 64 := by omega
      simp only [encode, decode, packed]
      simp [sextet?_symbol high, sextet?_symbol middle, sextet?_symbol low,
        symbol_ne_padding low, decodeTwo_encoded a b bits packed.symm]
  | case4 a b c rest ih =>
      have boundA := a.toNat_lt
      have boundB := b.toNat_lt
      have boundC := c.toNat_lt
      generalize packed : (a.toNat * 256 + b.toNat) * 256 + c.toNat = bits
      have first : bits / 262144 < 64 := by omega
      have second : bits / 4096 % 64 < 64 := by omega
      have third : bits / 64 % 64 < 64 := by omega
      have fourth : bits % 64 < 64 := by omega
      simp only [encode, decode, packed]
      simp [sextet?_symbol first, sextet?_symbol second, sextet?_symbol third,
        sextet?_symbol fourth, symbol_ne_padding fourth, ih,
        decodeThree_encoded a b c bits packed.symm]

/-- A text that is read is the one that its bytes are written as. -/
theorem eq_encode_of_decode {chars : List Char} {bytes : List UInt8}
    (read : decode chars = some bytes) : chars = encode bytes := by
  fun_induction decode chars generalizing bytes with
  | case1 =>
      cases read
      rfl
  | case2 a b c d rest ih =>
      obtain ⟨x, first, tail⟩ := Option.bind_eq_some_iff.mp read
      obtain ⟨y, second, ending⟩ := Option.bind_eq_some_iff.mp tail
      obtain ⟨boundX, rfl⟩ := symbol_of_sextet? first
      obtain ⟨boundY, rfl⟩ := symbol_of_sextet? second
      clear read tail
      split at ending
      · rename_i padded
        obtain ⟨rfl, rfl, rfl⟩ := padded
        exact (encode_decodeOne boundX boundY ending).symm
      obtain ⟨z, third, longer⟩ := Option.bind_eq_some_iff.mp ending
      obtain ⟨boundZ, rfl⟩ := symbol_of_sextet? third
      clear ending
      split at longer
      · rename_i padded
        obtain ⟨rfl, rfl⟩ := padded
        exact (encode_decodeTwo boundX boundY boundZ longer).symm
      obtain ⟨w, fourth, group⟩ := Option.bind_eq_some_iff.mp longer
      obtain ⟨boundW, rfl⟩ := symbol_of_sextet? fourth
      obtain ⟨others, behind, whole⟩ := Option.bind_eq_some_iff.mp group
      cases whole
      rw [encode_decodeThree boundX boundY boundZ boundW, ih behind]
  | case3 => cases read

theorem mem_encode {bytes : List UInt8} {c : Char} (member : c ∈ encode bytes) :
    (∃ n, n < 64 ∧ c = symbol n) ∨ c = '=' := by
  induction bytes using encode.induct with
  | case1 => cases member
  | case2 a =>
      have bound := a.toNat_lt
      simp only [encode, List.mem_cons, List.not_mem_nil, or_false] at member
      rcases member with rfl | rfl | rfl | rfl
      · exact .inl ⟨_, by omega, rfl⟩
      · exact .inl ⟨_, by omega, rfl⟩
      · exact .inr rfl
      · exact .inr rfl
  | case3 a b =>
      have boundA := a.toNat_lt
      have boundB := b.toNat_lt
      simp only [encode, List.mem_cons, List.not_mem_nil, or_false] at member
      rcases member with rfl | rfl | rfl | rfl
      · exact .inl ⟨_, by omega, rfl⟩
      · exact .inl ⟨_, by omega, rfl⟩
      · exact .inl ⟨_, by omega, rfl⟩
      · exact .inr rfl
  | case4 a b c rest ih =>
      have boundA := a.toNat_lt
      have boundB := b.toNat_lt
      have boundC := c.toNat_lt
      simp only [encode, List.mem_cons] at member
      rcases member with rfl | rfl | rfl | rfl | later
      · exact .inl ⟨_, by omega, rfl⟩
      · exact .inl ⟨_, by omega, rfl⟩
      · exact .inl ⟨_, by omega, rfl⟩
      · exact .inl ⟨_, by omega, rfl⟩
      · exact ih later

theorem encode_not_whiteSpace (bytes : List UInt8) :
    ∀ c ∈ encode bytes, whiteSpace.contains c = false := by
  intro c member
  rcases mem_encode member with ⟨n, bound, rfl⟩ | rfl
  · exact symbol_not_whiteSpace bound
  · decide

end Base64

/-! ## Trimming -/

theorem dropWhile_whiteSpace_append {blank text : List Char}
    (blanks : ∀ c ∈ blank, whiteSpace.contains c = true)
    (solid : ∀ c ∈ text, whiteSpace.contains c = false) :
    (blank ++ text).dropWhile whiteSpace.contains = text := by
  rw [List.dropWhile_append_of_pos blanks]
  cases text with
  | nil => rfl
  | cons c rest =>
      apply List.dropWhile_cons_of_neg
      simp [solid c (List.mem_cons_self ..)]

/-- Trimming takes away the white space on both sides of a text that has none inside. -/
theorem trimChars_padded {before text after : List Char}
    (blankBefore : ∀ c ∈ before, whiteSpace.contains c = true)
    (solid : ∀ c ∈ text, whiteSpace.contains c = false)
    (blankAfter : ∀ c ∈ after, whiteSpace.contains c = true) :
    trimChars (before ++ text ++ after) = text := by
  have blankBehind : ∀ c ∈ after.reverse, whiteSpace.contains c = true := by
    intro c member
    exact blankAfter c (List.mem_reverse.mp member)
  have solidBehind : ∀ c ∈ text.reverse, whiteSpace.contains c = false := by
    intro c member
    exact solid c (List.mem_reverse.mp member)
  rw [trimChars, List.append_assoc, List.dropWhile_append_of_pos blankBefore]
  cases text with
  | nil =>
      have dropped : after.dropWhile whiteSpace.contains = [] := by
        simpa using dropWhile_whiteSpace_append blankAfter solidBehind
      simp [dropped]
  | cons c rest =>
      have stops : (c :: rest ++ after).dropWhile whiteSpace.contains = c :: rest ++ after := by
        apply List.dropWhile_cons_of_neg
        simp [solid c (List.mem_cons_self ..)]
      rw [stops, List.reverse_append, dropWhile_whiteSpace_append blankBehind solidBehind,
        List.reverse_reverse]

theorem trimChars_parts (chars : List Char) :
    ∃ before after, chars = before ++ trimChars chars ++ after ∧
      (∀ c ∈ before, whiteSpace.contains c = true) ∧
      ∀ c ∈ after, whiteSpace.contains c = true := by
  generalize left : chars.dropWhile whiteSpace.contains = behind
  have front : chars = chars.takeWhile whiteSpace.contains ++ behind := by
    rw [← left, List.takeWhile_append_dropWhile]
  have back : behind = trimChars chars ++
      (behind.reverse.takeWhile whiteSpace.contains).reverse := by
    rw [trimChars, left, ← List.reverse_append, List.takeWhile_append_dropWhile,
      List.reverse_reverse]
  refine ⟨chars.takeWhile whiteSpace.contains,
    (behind.reverse.takeWhile whiteSpace.contains).reverse, ?_, ?_, ?_⟩
  · rw [List.append_assoc, ← back, ← front]
  · exact List.all_eq_true.mp List.all_takeWhile
  · exact fun c member => List.all_eq_true.mp List.all_takeWhile c (List.mem_reverse.mp member)

end PagedJoins.Text
