import PagedJoins.Proofs.Page.Keyset

/-!
# Pages that are asked for

A relation with a sort key or an order is paged, and then its page arguments count: a size bounds
the page, and a cursor is where it starts. Arguments that cannot both count are refused, and so are
those that the way of paging has no use for. Only a relation that has neither a sort key nor an
order is taken whole, whatever page its arguments ask for.
-/

namespace PagedJoins

/-! ## Arguments that go together -/

namespace Args

/-- Does the request ask for one page only: forward or backward, behind one cursor? -/
structure Compatible (args : Args) : Prop where
  sizes : args.first = none ∨ args.last = none
  forward : args.first = none ∨ args.before = none
  backward : args.last = none ∨ args.after = none
  cursors : args.after = none ∨ args.before = none

variable {args : Args}

/-- Nothing is wrong with the page arguments just if they ask for one page only. -/
theorem keysetFault?_eq_none_iff : args.keysetFault? = none ↔ args.Compatible := by
  obtain ⟨first, last, after, before, filters⟩ := args
  constructor
  · intro faultless
    cases first <;> cases last <;> cases after <;> cases before <;>
      simp [keysetFault?] at faultless <;> constructor <;> simp
  · intro compatible
    obtain ⟨sizes, forward, backward, cursors⟩ := compatible
    cases first <;> cases last <;> cases after <;> cases before <;>
      simp [keysetFault?] at *

theorem kind_of_keysetFault? {fault : ConfigFault} (wrong : args.keysetFault? = some fault) :
    fault.kind = .invalidPagination := by
  obtain ⟨first, last, after, before, filters⟩ := args
  cases first <;> cases last <;> cases after <;> cases before <;> cases wrong <;> rfl

namespace Compatible

theorem cursor_eq (compatible : args.Compatible) :
    (if args.isBackward then args.before else args.after) = (args.after <|> args.before) := by
  obtain ⟨first, last, after, before, filters⟩ := args
  obtain ⟨sizes, forward, backward, cursors⟩ := compatible
  cases first <;> cases last <;> cases after <;> cases before <;>
    simp [isBackward] at *

theorem cursor_eq_some_iff (compatible : args.Compatible) {text : String} :
    (args.after <|> args.before) = some text ↔
      args.after = some text ∨ args.before = some text := by
  obtain ⟨-, -, -, cursors⟩ := compatible
  cases cursors with
  | inl none => simp [none]
  | inr none => simp [none]

theorem size_eq_some_iff (compatible : args.Compatible) {n : UInt64} :
    (args.first <|> args.last) = some n ↔ args.first = some n ∨ args.last = some n := by
  obtain ⟨sizes, -, -, -⟩ := compatible
  cases sizes with
  | inl none => simp [none]
  | inr none => simp [none]

/-- A page is read backward if its size is that of a page backward, or if its cursor is all there
is and is that of a page backward. -/
theorem isBackward_iff (compatible : args.Compatible) :
    args.isBackward = true ↔ args.last.isSome = true ∨
      (args.before.isSome = true ∧ args.first = none ∧ args.last = none ∧ args.after = none) := by
  obtain ⟨first, last, after, before, filters⟩ := args
  obtain ⟨sizes, forward, backward, cursors⟩ := compatible
  cases first <;> cases last <;> cases after <;> cases before <;>
    simp [isBackward] at *

end Compatible

end Args

/-! ## Bounds of a page -/

theorem toNat_nextCount_eq_min (n : UInt64) :
    (nextCount n).toNat = min (n.toNat + 1) (UInt64.size - 1) := by
  have countable : n.toNat < UInt64.size := n.toNat_lt
  rw [toNat_nextCount]
  split <;> omega

namespace Config

/-- The greatest size of a page that the settings allow. -/
def most (config : Config) : Nat :=
  match config.unbounded with
  | .max most => most.toNat
  | .all | .reject => UInt64.size - 1

/-- How many rows more than the page has are fetched. -/
def ahead (config : Config) : Nat :=
  if config.lookahead then 1 else 0

variable {config : Config}

theorem pageLimit_isOk_iff {requested : Option UInt64} :
    (∃ limit, config.pageLimit requested = .ok limit) ↔
      requested.isSome = true ∨ config.unbounded ≠ .reject := by
  unfold pageLimit pageSize
  cases requested with
  | some n => cases config.unbounded <;> exact iff_of_true ⟨_, rfl⟩ (.inl rfl)
  | none =>
      cases config.unbounded with
      | all => exact iff_of_true ⟨_, rfl⟩ (.inr nofun)
      | max most => exact iff_of_true ⟨_, rfl⟩ (.inr nofun)
      | reject => exact iff_of_false nofun (by simp)

theorem kind_of_pageLimit {requested : Option UInt64} {fault : ConfigFault}
    (unbounded : config.pageLimit requested = .error fault) : fault.kind = .invalidPagination := by
  unfold pageLimit pageSize at unbounded
  cases requested <;> cases same : config.unbounded <;> rw [same] at unbounded <;> cases unbounded
  rfl

/-- The size that a request asks for bounds its page, as far as the settings allow, with one more
row to look ahead, as far as rows can be counted. -/
theorem pageLimit_some (config : Config) (n : UInt64) :
    ∃ m, config.pageLimit (some n) = .ok (.rows m) ∧
      m.toNat = min (min n.toNat config.most + config.ahead) (UInt64.size - 1) := by
  have sized : ∃ size : UInt64, config.pageSize (some n) = .ok (.rows size) ∧
      size.toNat = min n.toNat config.most := by
    have countable : min n.toNat (UInt64.size - 1) = n.toNat :=
      Nat.min_eq_left (Nat.le_pred_of_lt n.toNat_lt)
    unfold pageSize most
    cases config.unbounded with
    | max most =>
        refine ⟨_, rfl, ?_⟩
        change (if n ≤ most then n else most).toNat = min n.toNat most.toNat
        rw [apply_ite UInt64.toNat, Nat.min_def]
        rfl
    | all | reject => exact ⟨n, rfl, countable.symm⟩
  obtain ⟨size, bounded, same⟩ := sized
  unfold pageLimit ahead
  rw [bounded, ← same]
  cases config.lookahead with
  | false => exact ⟨size, rfl, (Nat.min_eq_left (Nat.le_pred_of_lt size.toNat_lt)).symm⟩
  | true => exact ⟨nextCount size, rfl, toNat_nextCount_eq_min size⟩

end Config

/-! ## Pages by sort key -/

variable {κ : Type}

/-- Are these columns that a relation lists, or else its junction, with the alias of their owner? -/
inductive Node.Lists (node : Node κ) (listed : Option (List SortColumn))
    (listedIn : Junction κ → Option (List SortColumn)) : Order → Prop where
  | own {columns : List SortColumn} (own : listed = some columns) :
      Lists node listed listedIn ⟨node.aliasName, columns⟩
  | ofJunction {junction : Junction κ} {columns : List SortColumn} (unlisted : listed = none)
      (through : node.junction = some junction) (own : listedIn junction = some columns) :
      Lists node listed listedIn ⟨junction.aliasName, columns⟩

/-- Is this the sort key of a relation: its own, or else that of its junction? -/
def Node.SortedBy (node : Node κ) : Order → Prop :=
  node.Lists node.sortKey (·.sortKey)

/-- Is this the order of a relation: its own, or else that of its junction? -/
def Node.OrderedBy (node : Node κ) : Order → Prop :=
  node.Lists node.orderBy (·.orderBy)

theorem Cursor.HasValues.map {cursor : Cursor} {columns : List SortColumn} {values : List Value}
    (known : cursor.HasValues columns values) {f : SortColumn → SortColumn}
    (same : ∀ sort, (f sort).column = sort.column) :
    cursor.HasValues (columns.map f) values := by
  apply List.forall₂_map_left_iff.mpr
  apply known.imp
  intro sort value found
  rw [same]
  exact found

/-- Has a relation all that a page by this sort key needs? -/
structure Node.AsksForKeyset (node : Node κ) (config : Config) (order : Order) : Prop where
  sorted : node.SortedBy order
  nonempty : order.columns ≠ []
  compatible : node.args.Compatible
  bounded : node.args.first.isSome = true ∨ node.args.last.isSome = true ∨
    config.unbounded ≠ .reject
  placed : ∀ text, node.args.after = some text ∨ node.args.before = some text →
    ∃ cursor values,
      Cursor.decode text = .ok cursor ∧ cursor.alignedValues order.columns = .ok values

/-- A column of a sort key as a page orders by it: as it is, or for a page backward in the other
direction. -/
def SortColumn.onPage (sort : SortColumn) : Bool → SortColumn
  | false => sort
  | true => ⟨sort.column, if sort.direction = .asc then .desc else .asc⟩

theorem SortColumn.onPage_true (sort : SortColumn) : sort.onPage true = sort.reverse := by
  obtain ⟨column, direction⟩ := sort
  cases direction with
  | asc => rfl
  | desc => rfl

/-- Does a page by this sort key do what its arguments say? Its order is that of the sort key, with
every direction turned round for a page backward, and a cursor is where it starts: past the values
that the cursor has for the sort key, in the order of the page. -/
structure KeysetPage.Coherent (page : KeysetPage) (args : Args) (base : Order) : Prop where
  table : page.order.table = base.table
  columns : page.order.columns = base.columns.map (·.onPage page.backward)
  backward : page.backward = true ↔ args.last.isSome = true ∨
    (args.before.isSome = true ∧ args.first = none ∧ args.last = none ∧ args.after = none)
  started : page.seek.isSome = true ↔ args.after.isSome = true ∨ args.before.isSome = true
  seek : ∀ seek, page.seek = some seek →
    seek.table = page.order.table ∧ seek.columns = page.order.columns ∧
      ∃ text cursor, (args.after = some text ∨ args.before = some text) ∧
        Cursor.decode text = .ok cursor ∧ cursor.HasValues base.columns seek.values

variable {config : Config} {node : Node κ}

theorem Node.lists_iff {listed : Option (List SortColumn)}
    {listedIn : Junction κ → Option (List SortColumn)} {order : Order} :
    (match listed with
      | some columns => some ⟨node.aliasName, columns⟩
      | none => node.junction.bind fun junction =>
        (listedIn junction).map fun columns => ⟨junction.aliasName, columns⟩) = some order ↔
      node.Lists listed listedIn order := by
  constructor
  · intro found
    split at found
    · cases found
      exact .own rfl
    · obtain ⟨junction, through, owned⟩ := Option.bind_eq_some_iff.mp found
      obtain ⟨columns, own, rfl⟩ := Option.map_eq_some_iff.mp owned
      exact .ofJunction rfl through own
  · intro lists
    cases lists with
    | own own => rw [own]
    | ofJunction unlisted through own => simp [unlisted, through, own]

theorem Node.sortOrder?_eq_some_iff {order : Order} :
    node.sortOrder? = some order ↔ node.SortedBy order :=
  lists_iff

theorem Node.rowOrder?_eq_some_iff {order : Order} :
    node.rowOrder? = some order ↔ node.OrderedBy order :=
  lists_iff

theorem Node.exists_lists_iff {listed : Option (List SortColumn)}
    {listedIn : Junction κ → Option (List SortColumn)} :
    (∃ order, node.Lists listed listedIn order) ↔
      (listed.isSome || node.junction.any fun junction => (listedIn junction).isSome) = true := by
  constructor
  · rintro ⟨order, own | ⟨unlisted, through, own⟩⟩
    · simp [own]
    · simp [through, own]
  · intro some
    cases listed with
    | some columns => exact ⟨_, .own rfl⟩
    | none =>
        simp only [Option.isSome_none, Bool.false_or, Option.any_eq_true] at some
        obtain ⟨junction, through, listing⟩ := some
        obtain ⟨columns, own⟩ := Option.isSome_iff_exists.mp listing
        exact ⟨_, .ofJunction rfl through own⟩

theorem Node.hasSortKey_iff : node.hasSortKey = true ↔ ∃ order, node.SortedBy order :=
  exists_lists_iff.symm

theorem Node.hasOrder_iff : node.hasOrder = true ↔ ∃ order, node.OrderedBy order :=
  exists_lists_iff.symm

section Seeks

variable {cursor : Option String} {sortKey : List SortColumn} (place : List Value → Seek)

theorem Seek.exists_of_cursor_iff :
    (∃ seek, cursor.mapM (fun text => do
      let values ← cursorValues text sortKey
      return place values) = .ok seek) ↔
      ∀ text, cursor = some text → ∃ decoded values,
        Cursor.decode text = .ok decoded ∧ decoded.alignedValues sortKey = .ok values := by
  cases cursor with
  | none => exact iff_of_true ⟨none, rfl⟩ nofun
  | some text =>
      rw [Option.mapM_some]
      constructor
      · intro sought other same
        cases same
        obtain ⟨seek, sought⟩ := sought
        obtain ⟨_, made, -⟩ := exists_of_map_eq_ok sought
        obtain ⟨values, known, -⟩ := exists_of_bind_eq_ok made
        obtain ⟨decoded, read, aligned⟩ := cursorValues_eq_ok_iff.mp known
        exact ⟨decoded, values, read, aligned⟩
      · intro placed
        obtain ⟨decoded, values, read, aligned⟩ := placed text rfl
        have known : cursorValues text sortKey = .ok values :=
          cursorValues_eq_ok_iff.mpr ⟨decoded, read, aligned⟩
        rw [known]
        exact ⟨_, rfl⟩

end Seeks

/-- A relation that has all that a page by sort key needs asks for one, and no other relation does.
-/
theorem Node.keysetPage_isOk_iff :
    (∃ page, node.keysetPage config = .ok page) ↔ ∃ order, node.AsksForKeyset config order := by
  constructor
  · intro asked
    obtain ⟨page, asked⟩ := asked
    obtain ⟨base, sorted, nonempty, fit, bounded, -, -, sought⟩ := keysetPage_eq_ok_iff.mp asked
    have compatible : node.args.Compatible := Args.keysetFault?_eq_none_iff.mp fit
    rw [compatible.cursor_eq] at sought
    refine ⟨base, sortOrder?_eq_some_iff.mp sorted, nonempty, compatible, ?bounded, ?placed⟩
    case bounded =>
      have known := Config.pageLimit_isOk_iff.mp ⟨page.limit, bounded⟩
      simpa [or_assoc] using known
    case placed =>
      intro text given
      exact (Seek.exists_of_cursor_iff _).mp ⟨_, sought⟩ text
        (compatible.cursor_eq_some_iff.mpr given)
  · intro asks
    obtain ⟨base, sorted, nonempty, compatible, bounded, placed⟩ := asks
    have sized : (node.args.first <|> node.args.last).isSome = true ∨
        config.unbounded ≠ .reject := by
      simpa [or_assoc] using bounded
    obtain ⟨limit, limited⟩ := Config.pageLimit_isOk_iff.mpr sized
    have starts : ∀ text, (node.args.after <|> node.args.before) = some text → ∃ cursor values,
        Cursor.decode text = .ok cursor ∧ cursor.alignedValues base.columns = .ok values := by
      intro text given
      exact placed text (compatible.cursor_eq_some_iff.mp given)
    let order := if node.args.isBackward then base.reversed else base
    obtain ⟨seek, sought⟩ := (Seek.exists_of_cursor_iff fun values =>
      ⟨base.table, order.columns, values⟩).mpr starts
    rw [← compatible.cursor_eq] at sought
    refine ⟨⟨limit, order, seek, node.args.isBackward⟩, keysetPage_eq_ok_iff.mpr ?_⟩
    exact ⟨base, sortOrder?_eq_some_iff.mpr sorted, nonempty,
      Args.keysetFault?_eq_none_iff.mpr compatible, limited, rfl, rfl, sought⟩

/-- A page by sort key that a relation asks for does what the arguments say. -/
theorem Node.coherent_of_keysetPage {page : KeysetPage}
    (asked : node.keysetPage config = .ok page) :
    ∃ base, node.SortedBy base ∧ base.columns ≠ [] ∧ page.Coherent node.args base := by
  obtain ⟨base, sorted, nonempty, fit, -, backward, turned, sought⟩ :=
    keysetPage_eq_ok_iff.mp asked
  have compatible : node.args.Compatible := Args.keysetFault?_eq_none_iff.mp fit
  rw [compatible.cursor_eq] at sought
  obtain ⟨started, past⟩ := Seek.of_cursor sought
  rw [← backward] at turned
  have table : page.order.table = base.table := by
    rw [turned]
    split <;> rfl
  have columns : page.order.columns = base.columns.map (·.onPage page.backward) := by
    rw [turned]
    cases page.backward with
    | false => exact (List.map_id _).symm
    | true =>
        simp only [SortColumn.onPage_true]
        rfl
  refine ⟨base, sortOrder?_eq_some_iff.mp sorted, nonempty, table, columns, ?backward, ?started,
    ?seek⟩
  case backward => rw [backward, compatible.isBackward_iff]
  case started => simp [started]
  case seek =>
    intro seek same
    obtain ⟨text, cursor, values, given, read, known, rfl⟩ := past seek same
    exact ⟨table.symm, rfl, text, cursor, compatible.cursor_eq_some_iff.mp given, read, known⟩

/-! ## Pages by position -/

theorem positionAfter_eq_ok_iff {text : String} {offset : UInt64} :
    positionAfter text = .ok offset ↔
      ∃ position, OffsetCursor.decode text = .ok position ∧ offset = nextCount position := by
  unfold positionAfter
  cases OffsetCursor.decode text with
  | error fault => exact iff_of_false nofun (by simp)
  | ok position =>
      constructor
      · intro behind
        cases behind
        exact ⟨position, rfl, rfl⟩
      · intro behind
        obtain ⟨_, same, rfl⟩ := behind
        cases same
        rfl

/-- A relation asks for this page by position just if it has an order, its arguments do not ask for
a page backward, the page has a bound that the settings allow, and the cursor, if there is one, has
a position. -/
theorem Node.offsetPage_eq_ok_iff {page : OffsetPage} :
    node.offsetPage config = .ok page ↔
      node.rowOrder? = some page.order ∧ node.args.last = none ∧ node.args.before = none ∧
        config.pageLimit node.args.first = .ok page.limit ∧
        node.args.after.mapM positionAfter = .ok page.offset := by
  unfold offsetPage
  constructor
  · intro asked
    cases ordered : node.rowOrder? with
    | none =>
        rw [ordered] at asked
        cases asked
    | some order =>
        rw [ordered] at asked
        dsimp only at asked
        split at asked
        · obtain ⟨_, refused, -⟩ := exists_of_bind_eq_ok asked
          cases refused
        · rename_i forward
          obtain ⟨limit, bounded, rest⟩ := exists_of_bind_eq_ok asked
          obtain ⟨offset, behind, result⟩ := exists_of_bind_eq_ok rest
          cases result
          simp only [not_or, Bool.not_eq_true, Option.isSome_eq_false_iff,
            Option.isNone_iff_eq_none] at forward
          exact ⟨rfl, forward.1, forward.2, eq_ok_of_mapError_eq_ok bounded, behind⟩
  · intro meets
    obtain ⟨ordered, unsized, unplaced, bounded, behind⟩ := meets
    simp only [ordered, unsized, unplaced, bounded, behind]
    rfl

/-! ## Arguments that count -/

/-- How many rows a page has at most. -/
def Paging.limit? : Paging → Option Limit
  | keyset page => some page.limit
  | offset page => some page.limit
  | unpaginated => none

/-- Does a page start where this cursor says: past the row with the values of the cursor, or behind
the position of the cursor, as far as rows can be counted? -/
def Paging.StartsBehind (text : String) : Paging → Prop
  | keyset page => ∃ cursor seek,
    Cursor.decode text = .ok cursor ∧ page.seek = some seek ∧
      seek.columns = page.order.columns ∧ cursor.HasValues seek.columns seek.values
  | offset page => ∃ position offset,
    OffsetCursor.decode text = .ok position ∧ page.offset = some offset ∧
      offset.toNat = min (position.toNat + 1) (UInt64.size - 1)
  | unpaginated => False

/-- Do all page arguments count? A size bounds the page: it has as many rows at most, if the
settings allow so many, and one more to look ahead. A cursor is where the page starts. -/
structure Paging.Honours (paging : Paging) (config : Config) (args : Args) : Prop where
  size : ∀ n, args.first = some n ∨ args.last = some n → ∃ m,
    paging.limit? = some (.rows m) ∧
      m.toNat = min (min n.toNat config.most + config.ahead) (UInt64.size - 1)
  cursor : ∀ text, args.after = some text ∨ args.before = some text → paging.StartsBehind text

theorem Node.honours_keyset {page : KeysetPage} (asked : node.keysetPage config = .ok page) :
    (Paging.keyset page).Honours config node.args := by
  obtain ⟨-, -, -, fit, bounded, -⟩ := keysetPage_eq_ok_iff.mp asked
  have compatible : node.args.Compatible := Args.keysetFault?_eq_none_iff.mp fit
  constructor
  case size =>
    intro n given
    obtain ⟨m, limited, same⟩ := config.pageLimit_some n
    rw [compatible.size_eq_some_iff.mpr given, limited] at bounded
    exact ⟨m, congrArg some (Except.ok.inj bounded).symm, same⟩
  case cursor =>
    intro text given
    obtain ⟨base, -, -, coherent⟩ := coherent_of_keysetPage asked
    have starts : page.seek.isSome = true := by
      rw [coherent.started]
      exact given.imp Option.isSome_of_eq_some Option.isSome_of_eq_some
    obtain ⟨seek, past⟩ := Option.isSome_iff_exists.mp starts
    obtain ⟨-, columns, other, cursor, given', decoded, known⟩ := coherent.seek seek past
    have same : other = text := by
      rw [← compatible.cursor_eq_some_iff] at given given'
      exact Option.some.inj (given'.symm.trans given)
    refine ⟨cursor, seek, same ▸ decoded, past, columns, ?_⟩
    rw [columns, coherent.columns]
    apply known.map
    intro sort
    cases page.backward with
    | false => rfl
    | true => rfl

theorem Node.honours_offset {page : OffsetPage} (asked : node.offsetPage config = .ok page) :
    (Paging.offset page).Honours config node.args := by
  obtain ⟨-, unsized, unplaced, bounded, behind⟩ := offsetPage_eq_ok_iff.mp asked
  constructor
  case size =>
    intro n given
    obtain ⟨m, limited, same⟩ := config.pageLimit_some n
    rw [unsized] at given
    rw [given.resolve_right nofun, limited] at bounded
    exact ⟨m, congrArg some (Except.ok.inj bounded).symm, same⟩
  case cursor =>
    intro text given
    rw [unplaced] at given
    rw [given.resolve_right nofun, Option.mapM_some] at behind
    obtain ⟨offset, found, same⟩ := exists_of_map_eq_ok behind
    obtain ⟨position, decoded, rfl⟩ := positionAfter_eq_ok_iff.mp found
    exact ⟨position, _, decoded, same.symm, toNat_nextCount_eq_min position⟩

/-! ## Refusals -/

/-- Is this why a page cannot be had: it is invalid, or the orders of the relation contradict each
other, or its cursor cannot be used? -/
inductive Error.RefusesPage (aliasName : String) : Error → Prop where
  | invalid {fault : ConfigFault} (kind : fault.kind = .invalidPagination) :
      RefusesPage aliasName (.config fault (some aliasName))
  | contradictory {fault : ConfigFault} (kind : fault.kind = .contradictoryPaging) :
      RefusesPage aliasName (.config fault (some aliasName))
  | cursor (fault : CursorFault) : RefusesPage aliasName (.cursor fault)

variable {error : Error}

theorem Config.refusesPage_of_pageLimit {requested : Option UInt64} {aliasName : String}
    (failed : (config.pageLimit requested).mapError (.config · aliasName) = .error error) :
    error.RefusesPage aliasName := by
  obtain ⟨fault, unbounded, rfl⟩ := exists_of_mapError_eq_error failed
  exact .invalid (kind_of_pageLimit unbounded)

theorem refusesPage_of_cursorValues {text : String} {sortKey : List SortColumn} {aliasName : String}
    (failed : cursorValues text sortKey = .error error) : error.RefusesPage aliasName := by
  obtain ⟨fault, -, rfl⟩ := exists_of_mapError_eq_error failed
  exact .cursor fault

theorem refusesPage_of_positionAfter {text aliasName : String}
    (failed : positionAfter text = .error error) : error.RefusesPage aliasName := by
  obtain ⟨fault, -, rfl⟩ := exists_of_mapError_eq_error failed
  exact .cursor fault

theorem Node.refusesPage_of_keysetPage (failed : node.keysetPage config = .error error) :
    error.RefusesPage node.aliasName := by
  unfold keysetPage at failed
  cases sorted : node.sortOrder? with
  | none =>
      rw [sorted] at failed
      cases failed
      exact .invalid rfl
  | some base =>
      rw [sorted] at failed
      dsimp only at failed
      split at failed
      · cases failed
        exact .invalid rfl
      · split at failed
        · rename_i fault wrong
          cases failed
          exact .invalid (Args.kind_of_keysetFault? wrong)
        · obtain unbounded | ⟨limit, -, rest⟩ := eq_error_of_bind_eq_error failed
          · exact config.refusesPage_of_pageLimit unbounded
          obtain unsought | ⟨seek, -, made⟩ := eq_error_of_bind_eq_error rest
          · obtain ⟨text, -, unread⟩ := exists_of_mapM_eq_error unsought
            exact refusesPage_of_cursorValues (eq_error_of_map_eq_error unread)
          · cases made

theorem Node.refusesPage_of_offsetPage (failed : node.offsetPage config = .error error) :
    error.RefusesPage node.aliasName := by
  unfold offsetPage at failed
  cases ordered : node.rowOrder? with
  | none =>
      rw [ordered] at failed
      cases failed
      exact .invalid rfl
  | some order =>
      rw [ordered] at failed
      dsimp only at failed
      split at failed
      · cases failed
        exact .invalid rfl
      · obtain unbounded | ⟨limit, -, rest⟩ := eq_error_of_bind_eq_error failed
        · exact config.refusesPage_of_pageLimit unbounded
        obtain unplaced | ⟨offset, -, made⟩ := eq_error_of_bind_eq_error rest
        · obtain ⟨text, -, unread⟩ := exists_of_mapM_eq_error unplaced
          exact refusesPage_of_positionAfter unread
        · cases made

theorem Node.kind_of_orderFault? {fault : ConfigFault} (wrong : node.orderFault? = some fault) :
    fault.kind = .contradictoryPaging := by
  unfold orderFault? at wrong
  split at wrong
  · cases wrong
    rfl
  · split at wrong
    · cases wrong
      rfl
    · split at wrong <;> cases wrong
      rfl

/-- Paging that cannot be had is refused. -/
theorem Node.refusesPage_of_paging (failed : node.paging config = .error error) :
    error.RefusesPage node.aliasName := by
  unfold paging at failed
  split at failed
  · rename_i fault wrong
    cases failed
    exact .contradictory (kind_of_orderFault? wrong)
  · split at failed
    · exact refusesPage_of_keysetPage (eq_error_of_map_eq_error failed)
    · split at failed
      · exact refusesPage_of_offsetPage (eq_error_of_map_eq_error failed)
      · cases failed

/-- A relation is taken whole just if neither it nor its junction has a sort key or an order. -/
theorem Node.paging_eq_unpaginated_iff :
    node.paging config = .ok .unpaginated ↔
      ¬ ((∃ order, node.SortedBy order) ∨ ∃ order, node.OrderedBy order) := by
  rw [← hasSortKey_iff, ← hasOrder_iff, not_or, Bool.not_eq_true, Bool.not_eq_true]
  constructor
  · intro whole
    unfold paging at whole
    split at whole
    · cases whole
    · split at whole
      · obtain ⟨page, -, other⟩ := exists_of_map_eq_ok whole
        cases other
      · rename_i unkeyed
        split at whole
        · obtain ⟨page, -, other⟩ := exists_of_map_eq_ok whole
          cases other
        · rename_i unordered
          exact ⟨eq_false_of_ne_true unkeyed, eq_false_of_ne_true unordered⟩
  · intro bare
    obtain ⟨unkeyed, unordered⟩ := bare
    have faultless : node.orderFault? = none := by
      unfold hasSortKey at unkeyed
      unfold hasOrder at unordered
      simp_all [orderFault?, hasSortKey, hasOrder]
    simp [paging, faultless, unkeyed, unordered]

/-! ## Paging -/

/-- No page argument is ignored where there is a page: whatever size and cursor the arguments have,
the page has that bound and starts there, or else it is refused. A relation is taken whole if neither
it nor its junction has a sort key or an order, and only then. -/
theorem Node.paging_honours_args (config : Config) (node : Node κ) :
    (node.paging config = .ok .unpaginated ↔
      ¬ ((∃ order, node.SortedBy order) ∨ ∃ order, node.OrderedBy order)) ∧
    (∀ paging, node.paging config = .ok paging → paging ≠ .unpaginated →
      paging.Honours config node.args) ∧
    ∀ error, node.paging config = .error error → error.RefusesPage node.aliasName := by
  refine ⟨paging_eq_unpaginated_iff, ?honours, fun error => refusesPage_of_paging⟩
  case honours =>
    intro paging asked paged
    obtain ⟨page, read, rfl⟩ | ⟨page, read, rfl⟩ | whole := paging_eq_ok asked
    · exact honours_keyset read
    · exact honours_offset read
    · exact absurd whole paged

/-- The tags before a tag of a post, in the order of their names, and of their numbers from the last
one on. -/
def tagsBefore : Node Unit where
  table := "tags"
  aliasName := "t"
  args := { last := some 80, before := some "eyJuYW1lIjp7IlRleHQiOiJ4In0sImlkIjp7IkludCI6N319" }
  junction := some {
    table := "post_tags"
    aliasName := "pt"
    sortKey := some [⟨"id", .desc⟩, ⟨"name", .asc⟩] }

/-- The page of the tags has all its arguments count, though the settings cut it to fewer tags. By
position there is no such page, and it is refused. -/
theorem paging_honours_args_tagsBefore :
    (∃ paging,
      tagsBefore.paging { unbounded := .max 50, lookahead := true } = .ok paging ∧
      paging ≠ .unpaginated ∧
      paging.Honours { unbounded := .max 50, lookahead := true } tagsBefore.args) ∧
    ∃ error,
      ({ tagsBefore with junction := none, orderBy := some [⟨"id", .asc⟩] } : Node Unit).paging {} =
        .error error ∧
      error.RefusesPage "t" := by
  have asked : tagsBefore.paging { unbounded := .max 50, lookahead := true } =
      .ok (.keyset {
        limit := .rows 51
        order := ⟨"pt", [⟨"id", .asc⟩, ⟨"name", .desc⟩]⟩
        seek := some ⟨"pt", [⟨"id", .asc⟩, ⟨"name", .desc⟩],
          [.integer .regular ⟨7, by decide⟩, .text "x"]⟩
        backward := true }) := by
    decide +kernel
  constructor
  · obtain ⟨-, honours, -⟩ := Node.paging_honours_args { unbounded := .max 50, lookahead := true }
      tagsBefore
    exact ⟨_, asked, nofun, honours _ asked nofun⟩
  · obtain ⟨-, -, refuses⟩ := Node.paging_honours_args {}
      ({ tagsBefore with junction := none, orderBy := some [⟨"id", .asc⟩] } : Node Unit)
    exact ⟨_, rfl, refuses _ rfl⟩

/-- All posts, though ten were asked for. -/
def wholePosts : Node Unit where
  table := "posts"
  aliasName := "p"
  args := { first := some 10 }

/-- The number of posts that was asked for does not count. -/
theorem paging_ignores_first :
    ¬ ∀ paging, wholePosts.paging {} = .ok paging → paging.Honours {} wholePosts.args := by
  intro honours
  obtain ⟨m, limited, -⟩ := (honours .unpaginated rfl).size 10 (.inl rfl)
  cases limited

end PagedJoins
