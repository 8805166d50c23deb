import Mathlib.Data.List.DropRight
import PagedJoins.Proofs.Text.Numeral
import PagedJoins.Sql.Literal

/-!
# Shapes of literals

The texts that a literal is chosen by: numerals, and timestamps. Each shape is a grammar here,
and what the pattern of it accepts are just the texts of the grammar. A pattern takes as many
digits as there are, which is right since no digit can follow them.
-/

namespace PagedJoins.Shape

open Text

/-! ## Digits -/

theorem digits?_append {digits rest : List Char} (run : IsRun isDecimalDigit digits)
    (stops : ∀ c, rest.head? = some c → isDecimalDigit c = false) :
    digits? (digits ++ rest) = some (digits, rest) := by
  have none : rest.takeWhile isDecimalDigit = [] ∧ rest.dropWhile isDecimalDigit = rest := by
    cases rest with
    | nil => exact ⟨rfl, rfl⟩
    | cons c rest => simp [stops c rfl]
  have taken : (digits ++ rest).takeWhile isDecimalDigit = digits := by
    rw [List.takeWhile_append_of_pos run.2, none.1, List.append_nil]
  have dropped : (digits ++ rest).dropWhile isDecimalDigit = rest := by
    rw [List.dropWhile_append_of_pos run.2, none.2]
  rw [digits?, taken, dropped]
  exact if_neg run.1

theorem digits?_eq_some {chars digits rest : List Char}
    (split : digits? chars = some (digits, rest)) :
    chars = digits ++ rest ∧ IsRun isDecimalDigit digits := by
  unfold digits? at split
  dsimp only at split
  split at split
  · cases split
  · rename_i some
    cases split
    exact ⟨List.takeWhile_append_dropWhile.symm, some, fun c => List.mem_takeWhile_imp⟩

theorem fraction?_append {fraction rest : List Char} (fractional : IsFraction isDecimalDigit fraction)
    (stops : ∀ c, rest.head? = some c → isDecimalDigit c = false ∧ c ≠ '.') :
    fraction? (fraction ++ rest) = some (fraction, rest) := by
  cases fractional with
  | none =>
      rw [List.nil_append]
      unfold fraction?
      split
      · exact absurd rfl (stops '.' rfl).2
      · rfl
  | @some digits run =>
      rw [List.cons_append, fraction?, digits?_append run fun c first => (stops c first).1]
      rfl

theorem fraction?_eq_some {chars fraction rest : List Char}
    (split : fraction? chars = some (fraction, rest)) :
    chars = fraction ++ rest ∧ IsFraction isDecimalDigit fraction := by
  unfold fraction? at split
  split at split
  · obtain ⟨⟨digits, after⟩, found, same⟩ := Option.map_eq_some_iff.mp split
    obtain ⟨whole, run⟩ := digits?_eq_some found
    cases same
    exact ⟨by rw [whole]; rfl, .some run⟩
  · cases split
    exact ⟨rfl, .none⟩

/-! ## Numerals -/

theorem ne_sign_of_isDecimalDigit {c : Char} (digit : isDecimalDigit c = true) :
    c ≠ '+' ∧ c ≠ '-' := by
  have signs : isDecimalDigit '+' = false ∧ isDecimalDigit '-' = false := by decide
  constructor <;> rintro rfl
  · exact Bool.false_ne_true (signs.1.symm.trans digit)
  · exact Bool.false_ne_true (signs.2.symm.trans digit)

theorem isExponent_iff {chars : List Char} :
    isExponent chars = true ↔ IsExponent isDecimalDigit chars := by
  constructor
  · intro exponent
    unfold isExponent at exponent
    split at exponent
    · exact .none
    · rename_i mark rest
      dsimp only at exponent
      obtain ⟨marks, digits⟩ : (mark = 'e' ∨ mark = 'E') ∧ _ ∧ _ := by
        simpa only [Bool.and_eq_true, Bool.or_eq_true, decide_eq_true_eq, and_assoc] using exponent
      have known : mark ∈ ['e', 'E'] := by simpa using marks
      have signed : ∀ sign digits : List Char, sign ∈ [[], ['+'], ['-']] → digits ≠ [] →
          digits.all isDecimalDigit = true →
          IsExponent isDecimalDigit (mark :: (sign ++ digits)) :=
        fun sign digits signs some all => .some known signs ⟨some, List.all_eq_true.mp all⟩
      split at digits
      · exact signed ['+'] _ (by decide) digits.1 digits.2
      · exact signed ['-'] _ (by decide) digits.1 digits.2
      · exact signed [] _ (by decide) digits.1 digits.2
  · intro exponent
    cases exponent with
    | none => rfl
    | @some mark sign digits marks signs run =>
        have all : digits.all isDecimalDigit = true := List.all_eq_true.mpr run.2
        simp only [List.mem_cons, List.not_mem_nil, or_false] at marks signs
        rcases signs with rfl | rfl | rfl
        · obtain ⟨c, rest, rfl⟩ := List.exists_cons_of_ne_nil run.1
          obtain ⟨plus, minus⟩ := ne_sign_of_isDecimalDigit (run.2 c (List.mem_cons_self ..))
          simp [isExponent, marks, plus, minus, all]
        · simp [isExponent, marks, run.1, all]
        · simp [isExponent, marks, run.1, all]

theorem exponent_stops {exponent : List Char} (scaled : IsExponent isDecimalDigit exponent) :
    ∀ c, exponent.head? = some c → isDecimalDigit c = false ∧ c ≠ '.' := by
  have known : ∀ mark ∈ ['e', 'E'], isDecimalDigit mark = false ∧ mark ≠ '.' :=
    List.forall_mem_cons.mpr ⟨by decide, List.forall_mem_singleton.mpr (by decide)⟩
  cases scaled with
  | none => exact nofun
  | some marks signs run =>
      rintro c ⟨⟩
      exact known _ marks

theorem digits?_bind_fraction? {plain exponent : List Char} (digits : IsPlain isDecimalDigit plain)
    (scaled : IsExponent isDecimalDigit exponent) :
    ∃ fraction, ((digits? (plain ++ exponent)).bind fun (_, rest) => fraction? rest) =
      some (fraction, exponent) := by
  cases digits with
  | @mk whole fraction run fractional =>
      have stops : ∀ c, (fraction ++ exponent).head? = some c → isDecimalDigit c = false := by
        cases fractional with
        | none => exact fun c first => (exponent_stops scaled c first).1
        | some run =>
            rintro c ⟨⟩
            decide
      refine ⟨fraction, ?_⟩
      rw [List.append_assoc, digits?_append run stops]
      exact fraction?_append fractional (exponent_stops scaled)

/-- The pattern of numerals accepts the numerals, in the digits of any script. -/
theorem isNumeral_iff {chars : List Char} :
    isNumeral chars = true ↔ IsNumeral isDecimalDigit chars := by
  constructor
  · intro numeral
    unfold isNumeral at numeral
    dsimp only at numeral
    split at numeral
    · rename_i fraction exponent split
      obtain ⟨⟨whole, rest⟩, first, second⟩ := Option.bind_eq_some_iff.mp split
      have signed : ∀ sign ∈ [[], ['-']], ∀ unsigned : List Char,
          digits? unsigned = some (whole, rest) →
          IsNumeral isDecimalDigit (sign ++ unsigned) := by
        intro sign signs unsigned taken
        obtain ⟨rfl, run⟩ := digits?_eq_some taken
        obtain ⟨rfl, fractional⟩ := fraction?_eq_some second
        rw [← List.append_assoc whole]
        exact .mk signs (.mk run fractional) (isExponent_iff.mp numeral)
      split at first
      · exact signed ['-'] (by decide) _ first
      · exact signed [] (by decide) _ first
    · cases numeral
  · intro numeral
    cases numeral with
    | @mk sign plain exponent signs digits scaled =>
        obtain ⟨fraction, taken⟩ := digits?_bind_fraction? digits scaled
        have accepted : isExponent exponent = true := isExponent_iff.mpr scaled
        simp only [List.mem_cons, List.not_mem_nil, or_false] at signs
        rcases signs with rfl | rfl
        · obtain ⟨c, rest, rfl, digit, -⟩ := digits.shape
          rw [List.cons_append] at taken
          simp [isNumeral, (ne_sign_of_isDecimalDigit digit).2, taken, accepted]
        · simp [isNumeral, taken, accepted]

/-! ## Timestamps -/

/-- Does the character fit the place of a pattern, if these are the digits? -/
def Place.Accepts (isDigit : Char → Bool) : Place → Char → Prop
  | digit, c => isDigit c = true
  | exactly d, c => c = d

/-- A date and a time with a separator between them, perhaps a fraction of a second, and a zone. -/
inductive IsTimestamp (isDigit : Char → Bool) (separators : List Char) (zones : List (List Char)) :
    List Char → Prop where
  | mk {date time fraction zone : List Char} {separator : Char}
      (dated : List.Forall₂ (Place.Accepts isDigit)
        [.digit, .digit, .digit, .digit, .exactly '-', .digit, .digit, .exactly '-', .digit, .digit]
        date)
      (separated : separator ∈ separators)
      (timed : List.Forall₂ (Place.Accepts isDigit)
        [.digit, .digit, .exactly ':', .digit, .digit, .exactly ':', .digit, .digit] time)
      (fractional : IsFraction isDigit fraction) (zoned : zone ∈ zones) :
      IsTimestamp isDigit separators zones
        (date ++ separator :: (time ++ (fraction ++ zone)))

/-- A timestamp as it is recognised: with a `T` or a space, and perhaps a `Z`. -/
def IsTimestampText (isDigit : Char → Bool) : List Char → Prop :=
  IsTimestamp isDigit ['T', ' '] [[], ['Z']]

/-- A timestamp as it is written: with a space, and without a `Z`. -/
def IsTimestampContent (isDigit : Char → Bool) : List Char → Prop :=
  IsTimestamp isDigit [' '] [[]]

/-- The text with a space for its first `T`, and without the `Z` at its end. -/
def spaced (chars : List Char) : List Char :=
  (chars.replace 'T' ' ').rdropWhile (· = 'Z')

theorem Place.fits_iff (place : Place) (c : Char) :
    place.fits c = true ↔ place.Accepts isDecimalDigit c := by
  cases place with
  | digit => rfl
  | exactly d => exact decide_eq_true_iff

theorem fixed?_append {places : List Place} {matched : List Char}
    (fitting : List.Forall₂ (Place.Accepts isDecimalDigit) places matched) (rest : List Char) :
    fixed? places (matched ++ rest) = some (matched, rest) := by
  induction fitting with
  | nil => rfl
  | @cons place c places matched accepts _ ih =>
      rw [List.cons_append, fixed?, if_pos ((place.fits_iff c).mpr accepts), ih]
      rfl

theorem fixed?_eq_some {places : List Place} {chars matched rest : List Char}
    (split : fixed? places chars = some (matched, rest)) :
    chars = matched ++ rest ∧ List.Forall₂ (Place.Accepts isDecimalDigit) places matched := by
  induction places generalizing chars matched with
  | nil =>
      cases split
      exact ⟨rfl, .nil⟩
  | cons place places ih =>
      cases chars with
      | nil => cases split
      | cons c chars =>
          rw [fixed?] at split
          split at split
          · rename_i fits
            obtain ⟨⟨inside, after⟩, found, same⟩ := Option.map_eq_some_iff.mp split
            cases same
            obtain ⟨rfl, fitting⟩ := ih found
            exact ⟨rfl, .cons ((place.fits_iff c).mp fits) fitting⟩
          · cases split

theorem not_mem_of_accepts {places : List Place} {chars : List Char}
    (among : ∀ place ∈ places, place ∈ datePattern ++ timePattern)
    (fitting : List.Forall₂ (Place.Accepts isDecimalDigit) places chars) :
    ∀ letter ∈ ['T', 'Z'], letter ∉ chars := by
  have apart : ∀ place ∈ datePattern ++ timePattern, ['T', 'Z'].any place.fits = false := by
    decide
  intro letter known
  induction fitting with
  | nil => exact List.not_mem_nil
  | @cons place c places chars accepts _ ih =>
      obtain ⟨here, behind⟩ := List.forall_mem_cons.mp among
      rintro (_ | ⟨_, member⟩)
      · have fits := (place.fits_iff letter).mpr accepts
        exact List.any_eq_false.mp (apart place here) letter known fits
      · exact ih behind member

theorem not_mem_of_isFraction {chars : List Char} (fractional : IsFraction isDecimalDigit chars) :
    ∀ letter ∈ ['T', 'Z'], letter ∉ chars := by
  have apart : ∀ letter ∈ ['T', 'Z'], isDecimalDigit letter = false ∧ letter ≠ '.' :=
    List.forall_mem_cons.mpr ⟨by decide, List.forall_mem_singleton.mpr (by decide)⟩
  intro letter known member
  rcases fractional.chars_mem letter member with digit | point
  · rw [(apart letter known).1] at digit
    cases digit
  · exact (apart letter known).2 point

theorem spaced_parts {date time fraction zone : List Char} {separator : Char}
    (dated : List.Forall₂ (Place.Accepts isDecimalDigit) datePattern date)
    (separated : separator ∈ ['T', ' '])
    (timed : List.Forall₂ (Place.Accepts isDecimalDigit) timePattern time)
    (fractional : IsFraction isDecimalDigit fraction) (zoned : zone ∈ [[], ['Z']]) :
    spaced (date ++ separator :: (time ++ (fraction ++ zone))) =
      date ++ ' ' :: (time ++ fraction) := by
  have inDate := not_mem_of_accepts (fun _ => List.mem_append_left _) dated
  have inTime := not_mem_of_accepts (fun _ => List.mem_append_right _) timed
  have inFraction := not_mem_of_isFraction fractional
  have replaced : (date ++ separator :: (time ++ (fraction ++ zone))).replace 'T' ' ' =
      date ++ ' ' :: (time ++ (fraction ++ zone)) := by
    rw [List.replace_append_right (inDate 'T' (by decide))]
    simp only [List.mem_cons, List.not_mem_nil, or_false] at separated zoned
    rcases separated with rfl | rfl
    · rw [List.replace_cons_self]
    · have absent : 'T' ∉ ' ' :: (time ++ (fraction ++ zone)) := by
        have inZone : 'T' ∉ zone := by
          rcases zoned with rfl | rfl <;> decide
        simp [inTime, inFraction, inZone]
      rw [List.replace_of_not_mem absent]
  have solid : (date ++ ' ' :: (time ++ fraction)).rdropWhile (· = 'Z') =
      date ++ ' ' :: (time ++ fraction) := by
    rw [List.rdropWhile_eq_self_iff]
    intro some last
    have member := List.getLast_mem some
    rw [of_decide_eq_true last] at member
    simp [inDate, inTime, inFraction] at member
  rw [spaced, replaced]
  simp only [List.mem_cons, List.not_mem_nil, or_false] at zoned
  rcases zoned with rfl | rfl
  · rw [List.append_nil, solid]
  · have ended : date ++ ' ' :: (time ++ (fraction ++ ['Z'])) =
        (date ++ ' ' :: (time ++ fraction)) ++ ['Z'] := by
      simp
    rw [ended, List.rdropWhile_concat_pos _ _ _ (by decide), solid]

/-- What follows the separator of a timestamp is taken apart. -/
def behindSeparator (date rest : List Char) : Option (List Char) := do
  let (time, rest) ← fixed? timePattern rest
  let (fraction, rest) ← fraction? rest
  if rest = [] ∨ rest = ['Z'] then
    return date ++ ' ' :: time ++ fraction
  else
    none

theorem timestamp?_append {date : List Char} {separator : Char}
    (dated : List.Forall₂ (Place.Accepts isDecimalDigit) datePattern date)
    (separated : separator ∈ ['T', ' ']) (rest : List Char) :
    timestamp? (date ++ separator :: rest) = behindSeparator date rest := by
  rw [timestamp?, fixed?_append dated]
  simp only [List.mem_cons, List.not_mem_nil, or_false] at separated
  rcases separated with rfl | rfl <;> rfl

theorem timestamp?_eq_some {chars content : List Char} (accepted : timestamp? chars = some content) :
    ∃ date separator rest, chars = date ++ separator :: rest ∧ separator ∈ ['T', ' '] ∧
      List.Forall₂ (Place.Accepts isDecimalDigit) datePattern date ∧
      behindSeparator date rest = some content := by
  unfold timestamp? at accepted
  obtain ⟨⟨date, behind⟩, split, later⟩ := Option.bind_eq_some_iff.mp accepted
  obtain ⟨rfl, dated⟩ := fixed?_eq_some split
  dsimp only at later
  split at later
  · exact ⟨date, 'T', _, rfl, by decide, dated, later⟩
  · exact ⟨date, ' ', _, rfl, by decide, dated, later⟩
  · cases later

/-- The pattern of timestamps accepts the timestamps, in the digits of any script, and what is
written of one has a space for its `T` and no `Z`. -/
theorem timestamp?_eq_some_iff {chars content : List Char} :
    timestamp? chars = some content ↔
      IsTimestampText isDecimalDigit chars ∧ content = spaced chars := by
  constructor
  · intro accepted
    obtain ⟨date, separator, rest, rfl, separated, dated, behind⟩ := timestamp?_eq_some accepted
    obtain ⟨⟨time, behindTime⟩, second, behind⟩ := Option.bind_eq_some_iff.mp behind
    obtain ⟨⟨fraction, zone⟩, third, ended⟩ := Option.bind_eq_some_iff.mp behind
    obtain ⟨rfl, timed⟩ := fixed?_eq_some second
    obtain ⟨rfl, fractional⟩ := fraction?_eq_some third
    dsimp only at ended
    split at ended
    · rename_i zoned
      cases ended
      have known : zone ∈ [[], ['Z']] := by simpa using zoned
      refine ⟨.mk dated separated timed fractional known, ?_⟩
      rw [spaced_parts dated separated timed fractional known, List.append_assoc]
      rfl
    · cases ended
  · rintro ⟨stamp, rfl⟩
    cases stamp with
    | @mk date time fraction zone separator dated separated timed fractional zoned =>
        have stops : ∀ c, zone.head? = some c → isDecimalDigit c = false ∧ c ≠ '.' := by
          simp only [List.mem_cons, List.not_mem_nil, or_false] at zoned
          rcases zoned with rfl | rfl
          · exact nofun
          · rintro c ⟨⟩
            decide
        have known : zone = [] ∨ zone = ['Z'] := by simpa using zoned
        rw [spaced_parts dated separated timed fractional zoned,
          timestamp?_append dated separated, behindSeparator, @fixed?_append timePattern _ timed]
        simp [fraction?_append fractional stops, known]

/-! ## From one class of digits to another -/

section Classes

variable {p q : Char → Bool}

theorem accepts_imp {places : List Place} {chars : List Char}
    (fitting : List.Forall₂ (Place.Accepts p) places chars)
    (each : ∀ c ∈ chars, p c = true → q c = true) :
    List.Forall₂ (Place.Accepts q) places chars := by
  induction fitting with
  | nil => exact .nil
  | @cons place c places chars accepts _ ih =>
      obtain ⟨here, behind⟩ := List.forall_mem_cons.mp each
      refine .cons ?_ (ih behind)
      cases place with
      | digit => exact here accepts
      | exactly d => exact accepts

theorem IsTimestamp.imp {separators : List Char} {zones : List (List Char)} {chars : List Char}
    (stamp : IsTimestamp p separators zones chars)
    (each : ∀ c ∈ chars, p c = true → q c = true) : IsTimestamp q separators zones chars := by
  cases stamp with
  | mk dated separated timed fractional zoned =>
      obtain ⟨inDate, behindDate⟩ := List.forall_mem_append.mp each
      obtain ⟨-, behindSeparator⟩ := List.forall_mem_cons.mp behindDate
      obtain ⟨inTime, behindTime⟩ := List.forall_mem_append.mp behindSeparator
      obtain ⟨inFraction, -⟩ := List.forall_mem_append.mp behindTime
      exact .mk (accepts_imp dated inDate) separated (accepts_imp timed inTime)
        (fractional.imp inFraction) zoned

/-- What is written of a timestamp is one with a space and without a `Z`, in the same digits. -/
theorem isTimestampContent_spaced {chars : List Char}
    (decimal : ∀ c, p c = true → isDecimalDigit c = true) (stamp : IsTimestampText p chars) :
    IsTimestampContent p (spaced chars) := by
  cases stamp with
  | @mk date time fraction zone separator dated separated timed fractional zoned =>
      have content : IsTimestampContent p (date ++ ' ' :: (time ++ (fraction ++ []))) :=
        .mk dated (by decide) timed fractional (by decide)
      rw [spaced_parts (accepts_imp dated fun c _ => decimal c) separated
        (accepts_imp timed fun c _ => decimal c) (fractional.imp fun c _ => decimal c) zoned]
      rwa [List.append_nil] at content

theorem mem_of_accepts {places : List Place} {chars : List Char}
    (fitting : List.Forall₂ (Place.Accepts p) places chars) :
    ∀ c ∈ chars, p c = true ∨ Place.exactly c ∈ places := by
  induction fitting with
  | nil => exact nofun
  | @cons place c places chars accepts _ ih =>
      rintro d (_ | ⟨_, member⟩)
      · cases place with
        | digit => exact .inl accepts
        | exactly mark =>
            cases accepts
            exact .inr (.head _)
      · exact (ih d member).imp id (.tail _)

theorem IsTimestampContent.chars_mem {chars : List Char} (stamp : IsTimestampContent p chars) :
    ∀ c ∈ chars, p c = true ∨ c ∈ ['-', ' ', ':', '.'] := by
  have marks : ∀ c, Place.exactly c ∈ datePattern ++ timePattern → c ∈ ['-', ' ', ':', '.'] := by
    intro c member
    simp only [datePattern, timePattern, List.cons_append, List.nil_append, List.mem_cons,
      List.not_mem_nil, reduceCtorEq, Place.exactly.injEq, false_or, or_false] at member
    rcases member with rfl | rfl | rfl | rfl <;> decide
  cases stamp with
  | @mk date time fraction zone separator dated separated timed fractional zoned =>
      cases List.mem_singleton.mp separated
      cases List.mem_singleton.mp zoned
      rw [List.append_nil]
      intro c member
      rcases List.mem_append.mp member with inDate | behind
      · exact (mem_of_accepts dated c inDate).imp id fun mark =>
          marks c (List.mem_append_left _ mark)
      rcases List.mem_cons.mp behind with rfl | behind
      · exact .inr (by decide)
      rcases List.mem_append.mp behind with inTime | inFraction
      · exact (mem_of_accepts timed c inTime).imp id fun mark =>
          marks c (List.mem_append_right _ mark)
      · exact (fractional.chars_mem c inFraction).imp id fun point => by simp [point]

/-- All digits of a timestamp are written, so they are of a class if those that are written are. -/
theorem isTimestampText_of_spaced {chars : List Char}
    (stamp : IsTimestampText isDecimalDigit chars) (content : IsTimestampContent p (spaced chars)) :
    IsTimestampText p chars := by
  have none : ∀ c ∈ ['-', ' ', ':', '.', 'T', 'Z'], ¬isDecimalDigit c = true :=
    List.any_eq_false.mp (by decide)
  apply stamp.imp
  intro c member digit
  have other : ∀ d ∈ ['-', ' ', ':', '.', 'T', 'Z'], c ≠ d := by
    rintro d known rfl
    exact none c known digit
  have written : c ∈ spaced chars := by
    cases stamp with
    | mk dated separated timed fractional zoned =>
        rw [spaced_parts dated separated timed fractional zoned]
        simp only [List.mem_cons, List.not_mem_nil, or_false] at separated zoned
        simp only [List.mem_append, List.mem_cons] at member ⊢
        rcases member with inDate | separator | inTime | inFraction | inZone
        · exact .inl inDate
        · rcases separated with rfl | rfl
          · exact absurd separator (other 'T' (by decide))
          · exact absurd separator (other ' ' (by decide))
        · exact .inr (.inr (.inl inTime))
        · exact .inr (.inr (.inr inFraction))
        · rcases zoned with rfl | rfl
          · cases inZone
          · exact absurd (List.mem_singleton.mp inZone) (other 'Z' (by decide))
  rcases content.chars_mem c written with inside | mark
  · exact inside
  · exact absurd rfl (other c (List.mem_append_left ['T', 'Z'] mark))

end Classes

end PagedJoins.Shape
