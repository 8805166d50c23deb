import PagedJoins.Binary.Basic

/-!
# Values

The scalars that a database row holds, each with the exact type it has there: an
integer of one width never becomes one of another.
-/

namespace PagedJoins

/-- The widths of integer columns. -/
inductive IntWidth where
  | tiny
  | small
  | regular
  | big
  deriving DecidableEq, Repr

namespace IntWidth

/-- The number of bits, the sign among them. -/
def bits : IntWidth → Nat
  | tiny => 8
  | small => 16
  | regular => 32
  | big => 64

/-- The name of the column type. -/
def name : IntWidth → String
  | tiny => "TinyInt"
  | small => "SmallInt"
  | regular => "Int"
  | big => "BigInt"

/-- The width of a column type. -/
def ofName? (name : String) : Option IntWidth :=
  [tiny, small, regular, big].find? (·.name = name)

@[simp] theorem ofName?_name (width : IntWidth) : ofName? width.name = some width := by
  cases width <;> rfl

/-- How many integers of the width are negative; as many are not. -/
def halfRange (width : IntWidth) : Nat :=
  Nat.pow 2 (width.bits - 1)

/-- Does the integer fit the width, in two's complement? -/
def Fits (width : IntWidth) (i : Int) : Prop :=
  -(width.halfRange : Int) ≤ i ∧ i < width.halfRange

instance (width : IntWidth) (i : Int) : Decidable (width.Fits i) :=
  inferInstanceAs (Decidable (_ ∧ _))

end IntWidth

/-- An integer of a given width. -/
structure SizedInt (width : IntWidth) where
  val : Int
  fits : width.Fits val
  deriving DecidableEq, Repr

/-- The integer, if it fits the width. -/
def SizedInt.ofInt? (width : IntWidth) (i : Int) : Option (SizedInt width) :=
  if fits : width.Fits i then some ⟨i, fits⟩ else none

@[simp] theorem SizedInt.ofInt?_val {width : IntWidth} (n : SizedInt width) :
    ofInt? width n.val = some n := by
  simp [ofInt?, n.fits]

/-- A scalar of a database row. -/
inductive Value where
  | null
  | bool (b : Bool)
  | integer (width : IntWidth) (n : SizedInt width)
  | float (x : Binary .single)
  | double (x : Binary .double)
  /-- A number of any precision, as text that is not inspected until it is used. -/
  | decimal (text : String)
  | text (s : String)
  deriving DecidableEq, Repr

/-- What a value is, without its width. -/
inductive ValueKind where
  | null
  | boolean
  | integer
  | float
  | decimal
  | text
  deriving DecidableEq, Repr

namespace Value

/-- The kind of a value. -/
def kind : Value → ValueKind
  | null => .null
  | bool _ => .boolean
  | integer .. => .integer
  | float _ | double _ => .float
  | decimal _ => .decimal
  | text _ => .text

/-- Is the value a number of some type? -/
def isNumeric (value : Value) : Bool :=
  match value.kind with
  | .integer | .float | .decimal => true
  | _ => false

/-- Is the value anything but an infinite float or one that is not a number? -/
def isFinite : Value → Bool
  | float x => x.isFinite
  | double x => x.isFinite
  | _ => true

/-- The integer that a value stands for; truth values count as 0 and 1. -/
def toInt? : Value → Option Int
  | integer _ n => some n.val
  | bool b => some (if b then 1 else 0)
  | _ => none

end Value

end PagedJoins
