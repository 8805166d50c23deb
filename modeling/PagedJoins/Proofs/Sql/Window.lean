import PagedJoins.Page.Traversal
import PagedJoins.Proofs.Json.Text

/-!
# Windows read back

A database takes the clause that delimits the rows word by word. Where there is a `LIMIT` it
says how many rows are taken, and a word of the dialect may stand for all of them; elsewhere
rows are skipped first and then fetched. Whatever the dialect, the clause of a limit and an
offset selects the same rows: those behind the offset, as many as the limit lets through.
-/

namespace PagedJoins

namespace Text

/-- The words of a text: what stands between its blanks. -/
def words (text : List Char) : List String :=
  ((text.splitOn ' ').filter (· ≠ [])).map String.ofList

theorem words_append_blank (front back : List Char) :
    words (front ++ ' ' :: back) = words front ++ words back := by
  rw [words, List.splitOn, List.splitOnP_append_cons front back (by decide), List.filter_append,
    List.map_append]
  rfl

theorem words_of_no_blank {word : String} (shown : word ≠ "") (solid : ' ' ∉ word.toList) :
    words word.toList = [word] := by
  have whole : word.toList.splitOn ' ' = [word.toList] := by
    apply List.splitOnP_eq_singleton
    intro c member
    exact beq_eq_false_iff_ne.mpr fun blank => solid (blank ▸ member)
  simp [words, whole, shown]

theorem words_intercalate {texts : List String}
    (solid : ∀ text ∈ texts, text ≠ "" ∧ ' ' ∉ text.toList) :
    words (" ".intercalate texts).toList = texts := by
  induction texts with
  | nil => rfl
  | cons text texts ih =>
      obtain ⟨shown, whole⟩ := solid text (List.mem_cons_self ..)
      have later := ih fun other member => solid other (List.mem_cons_of_mem _ member)
      cases texts with
      | nil => rw [String.intercalate_singleton, words_of_no_blank shown whole]
      | cons next texts =>
          have shape : (" ".intercalate (text :: next :: texts)).toList =
              text.toList ++ ' ' :: (" ".intercalate (next :: texts)).toList := by
            simp [String.intercalate_cons_cons]
          rw [shape, words_append_blank, words_of_no_blank shown whole, later]
          rfl

end Text

/-! ## Reading a clause -/

/-- The rows that a clause asks for. -/
structure Window where
  /-- How many rows are skipped. -/
  skip : Nat := 0
  /-- How many rows are taken at most, if there is a bound. -/
  count : Option Nat := none
  deriving DecidableEq, Repr

/-- The rows of a list that a window selects. -/
def Window.select {α : Type} (window : Window) (rows : List α) : List α :=
  match window.count with
  | some count => (rows.drop window.skip).take count
  | none => rows.drop window.skip

/-- The number that a word of a clause stands for. -/
def number? (word : String) : Option Nat :=
  Text.readNat? word.toList

/-- What stands in the place of a number for as many rows as there are. -/
def Dialect.unboundedWord? : Dialect → Option String
  | postgres => some "ALL"
  | sqlite => some "-1"
  | _ => none

namespace Window

/-- Read the bound behind `LIMIT`. -/
def bound? (dialect : Dialect) (word : String) : Option (Option Nat) :=
  if dialect.unboundedWord? = some word then some none else (number? word).map some

/-- Read a `LIMIT`, perhaps with an `OFFSET` behind it. -/
def ofLimit? (dialect : Dialect) : List String → Option Window
  | ["LIMIT", bound] => do
    return { count := ← bound? dialect bound }
  | ["LIMIT", bound, "OFFSET", skip] => do
    return { skip := ← number? skip, count := ← bound? dialect bound }
  | _ => none

/-- Read the bound of a `FETCH`, if there is one. -/
def fetch? : List String → Option (Option Nat)
  | [] => some none
  | ["FETCH", "FIRST", count, "ROWS", "ONLY"] => (number? count).map some
  | ["FETCH", "NEXT", count, "ROWS", "ONLY"] => (number? count).map some
  | _ => none

/-- Read an `OFFSET` in rows, perhaps with a `FETCH` behind it. -/
def ofOffset? : List String → Option Window
  | "OFFSET" :: skip :: "ROWS" :: rest => do
    return { skip := ← number? skip, count := ← fetch? rest }
  | _ => none

/-- Read a clause by the syntax of a dialect. Only Oracle can do without an `OFFSET` before a
`FETCH`, and without a clause. -/
def read? (dialect : Dialect) (clause : String) : Option Window :=
  let words := Text.words clause.toList
  match dialect with
  | .postgres | .mySql | .mariaDb | .sqlite => ofLimit? dialect words
  | .oracle => ofOffset? words <|> (fetch? words).map fun count => { count }
  | .sqlServer => ofOffset? words

end Window

/-! ## Clauses that were written -/

theorem toList_countText (n : UInt64) : (countText n).toList = Text.digits n.toNat :=
  Text.toList_decimal _

theorem countText_solid (n : UInt64) : countText n ≠ "" ∧ ' ' ∉ (countText n).toList := by
  constructor
  · intro empty
    exact Text.digits_ne_nil n.toNat (by rw [← toList_countText, empty]; rfl)
  · rw [toList_countText]
    intro blank
    exact absurd (Text.isDigit_of_mem_digits blank) (by decide)

theorem number?_countText (n : UInt64) : number? (countText n) = some n.toNat := by
  rw [number?, toList_countText, Text.readNat?, if_pos, Text.ofDigits_digits]
  exact ⟨Text.digits_ne_nil _, List.all_eq_true.mpr fun c => Text.isDigit_of_mem_digits⟩

theorem ne_countText {word : String} (other : number? word = none) (n : UInt64) :
    word ≠ countText n := by
  rintro rfl
  rw [number?_countText] at other
  cases other

/-- The words of the clause of a limit and an offset. -/
def Dialect.windowWords (dialect : Dialect) (limit : Limit) (offset : Option UInt64) :
    List String :=
  let skip (behind : List String) := offset.elim [] fun m => "OFFSET" :: countText m :: behind
  match dialect.windowStyle, limit with
  | .limit unlimited, .all => ["LIMIT", unlimited] ++ skip []
  | .limit _, .rows n => ["LIMIT", countText n] ++ skip []
  | .fetch, .all => skip ["ROWS"]
  | .fetch, .rows n =>
    skip ["ROWS"] ++ ["FETCH", offset.elim "FIRST" fun _ => "NEXT", countText n, "ROWS", "ONLY"]
  | .offsetFetch, .all => ["OFFSET", countText (offset.getD 0), "ROWS"]
  | .offsetFetch, .rows n =>
    ["OFFSET", countText (offset.getD 0), "ROWS", "FETCH", "NEXT", countText n, "ROWS", "ONLY"]

theorem Dialect.words_windowClause (dialect : Dialect) (limit : Limit) (offset : Option UInt64) :
    Text.words (dialect.windowClause limit offset).toList =
      dialect.windowWords limit offset := by
  have shape : (dialect.windowClause limit offset).toList =
      (" ".intercalate (dialect.windowWords limit offset)).toList := by
    unfold windowClause windowWords
    cases dialect.windowStyle <;> cases limit <;> cases offset <;> simp
  have solid : ∀ text ∈ dialect.windowWords limit offset, text ≠ "" ∧ ' ' ∉ text.toList := by
    cases dialect <;> cases limit <;> cases offset <;>
      simp [windowWords, windowStyle, countText_solid]
  rw [shape, Text.words_intercalate solid]

/-- The bound that is written for a limit. Two dialects have no word for none, so they write the
greatest count. -/
def Dialect.writtenBound : Dialect → Limit → Option Nat
  | _, .rows n => some n.toNat
  | mySql, .all | mariaDb, .all => some 18446744073709551615
  | _, .all => none

/-- The clause of a limit and an offset is read as these two. -/
theorem Window.read?_windowClause (dialect : Dialect) (limit : Limit) (offset : Option UInt64) :
    read? dialect (dialect.windowClause limit offset) =
      some ⟨offset.elim 0 UInt64.toNat, dialect.writtenBound limit⟩ := by
  have zero : number? (countText 0) = some 0 := number?_countText 0
  have greatest : number? "18446744073709551615" = some 18446744073709551615 := rfl
  have counts : ∀ n, "ALL" ≠ countText n ∧ "-1" ≠ countText n :=
    fun n => ⟨ne_countText rfl n, ne_countText rfl n⟩
  unfold read?
  rw [Dialect.words_windowClause]
  cases dialect <;> cases limit <;> cases offset <;>
    simp [Dialect.windowWords, Dialect.windowStyle, ofLimit?, ofOffset?, fetch?, bound?,
      Dialect.unboundedWord?, Dialect.writtenBound, number?_countText, zero, greatest, counts]

/-- Of fewer rows than can be counted, a window with the written bound selects those behind the
offset that the limit lets through. -/
theorem Window.select_writtenBound {α : Type} (dialect : Dialect) (limit : Limit)
    (offset : Option UInt64) {rows : List α} (few : rows.length < UInt64.size) :
    (Window.mk (offset.elim 0 UInt64.toNat) (dialect.writtenBound limit)).select rows =
      limit.take (rows.drop (offset.elim 0 UInt64.toNat)) := by
  cases limit with
  | rows n => cases dialect <;> rfl
  | all =>
      have short : (rows.drop (offset.elim 0 UInt64.toNat)).length ≤ 18446744073709551615 := by
        rw [List.length_drop]
        exact Nat.le_trans (Nat.sub_le ..) (Nat.le_of_lt_succ few)
      cases dialect with
      | mySql | mariaDb => exact List.take_of_length_le short
      | postgres | oracle | sqlite | sqlServer => rfl

/-- The clause of a limit and an offset is read as a window that selects the rows behind the
offset, as many as the limit lets through. -/
theorem Window.exists_read? {α : Type} (dialect : Dialect) (limit : Limit)
    (offset : Option UInt64) {rows : List α} (few : rows.length < UInt64.size) :
    ∃ window, read? dialect (dialect.windowClause limit offset) = some window ∧
      window.select rows = limit.take (rows.drop (offset.elim 0 UInt64.toNat)) :=
  ⟨_, read?_windowClause dialect limit offset, select_writtenBound dialect limit offset few⟩

end PagedJoins
