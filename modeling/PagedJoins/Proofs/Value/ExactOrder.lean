import PagedJoins.Value.Order

/-!
# Values that compare exactly

Integers of all widths compare with each other by their numbers, texts by their code
points and truth values by `false < true`. In each of these kinds no two values are
incomparable, and the comparison is a total preorder: the kinds that a sort key can be
trusted to order.
-/

namespace PagedJoins

/-- Do the values of the kind compare with each other, and exactly? -/
def ValueKind.isExact : ValueKind → Bool
  | integer | text | boolean => true
  | _ => false

namespace Value

/-- The numbers that a value is compared by, the first difference deciding: an integer or
truth value is compared by one number, and a text by its code points. -/
def rank : Value → List Int
  | integer _ n => [n.val]
  | bool b => [(b.toNat : Int)]
  | text s => s.toList.map fun c => (c.toNat : Int)
  | _ => []

/-- The order of two lists of numbers, by their first difference. -/
def compareNumbers : List Int → List Int → Ordering :=
  List.compareLex fun x y => compare x y

instance : Std.TransCmp compareNumbers :=
  inferInstanceAs (Std.TransCmp (List.compareLex fun x y : Int => compare x y))

/-- The comparison of two values by their numbers. -/
def compareRank (a b : Value) : Ordering :=
  compareNumbers a.rank b.rank

instance : Std.TransCmp compareRank where
  eq_swap := by
    intro a b
    exact (Std.OrientedCmp.eq_swap : compareNumbers a.rank b.rank = _)
  isLE_trans := by
    intro a b c first second
    exact (Std.TransCmp.isLE_trans first second : (compareNumbers a.rank c.rank).isLE)

theorem compareNumbers_singleton (x y : Int) : compareNumbers [x] [y] = compare x y := by
  rw [compareNumbers, List.compareLex_cons_cons, List.compareLex_nil_nil]
  cases compare x y <;> rfl

theorem compare_natCast (m n : Nat) : compare (m : Int) (n : Int) = compare m n := by
  simp only [compare, compareOfLessAndEq, Int.ofNat_lt, Int.ofNat_inj]

/-- Code points compare as texts do, from the first difference on. -/
theorem compareLex_toNat (s t : List Char) :
    List.compareLex (fun c d => compare c.toNat d.toNat) s t =
      compareNumbers (s.map fun c => (c.toNat : Int)) (t.map fun c => (c.toNat : Int)) := by
  induction s generalizing t with
  | nil => cases t <;> rfl
  | cons c s ih =>
      cases t with
      | nil => rfl
      | cons d t =>
          rw [compareNumbers] at ih ⊢
          rw [List.map_cons, List.map_cons, List.compareLex_cons_cons,
            List.compareLex_cons_cons, compare_natCast, ih]

theorem sqlCompare_integer {width width' : IntWidth} (m : SizedInt width)
    (n : SizedInt width') :
    (integer width m).sqlCompare (integer width' n) =
      some (compareRank (integer width m) (integer width' n)) :=
  congrArg some (compareNumbers_singleton m.val n.val).symm

theorem sqlCompare_bool (p q : Bool) :
    (bool p).sqlCompare (bool q) = some (compareRank (bool p) (bool q)) := by
  have numbers : compareRank (bool p) (bool q) = compare p.toNat q.toNat :=
    (compareNumbers_singleton _ _).trans (compare_natCast _ _)
  rw [numbers]
  rfl

theorem sqlCompare_text (s t : String) :
    (text s).sqlCompare (text t) = some (compareRank (text s) (text t)) :=
  congrArg some (compareLex_toNat s.toList t.toList)

/-- Two values of one exact kind are never incomparable, and compare by their numbers. -/
theorem sqlCompare_of_isExact {a b : Value} (exactKind : a.kind.isExact = true)
    (same : a.kind = b.kind) : a.sqlCompare b = some (compareRank a b) := by
  cases a with
  | integer width m =>
      cases b with
      | integer width' n => exact sqlCompare_integer m n
      | _ => cases same
  | bool p =>
      cases b with
      | bool q => exact sqlCompare_bool p q
      | _ => cases same
  | text s =>
      cases b with
      | text t => exact sqlCompare_text s t
      | _ => cases same
  | _ => cases exactKind

end Value

end PagedJoins
