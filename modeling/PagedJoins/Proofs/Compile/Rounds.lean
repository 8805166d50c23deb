import Mathlib.Data.List.Nodup
import Mathlib.Logic.Relation
import Mathlib.Order.WellFounded
import PagedJoins.Proofs.Compile.Walk

/-!
# Rounds

A tree that is put off is compiled as a tree of its own, once there is a batch for it, and this
may put off further trees. What has been compiled and what still waits make up the whole tree
at any time: a round moves some of it from the one to the other, and neither loses anything
nor does anything twice. So when nothing waits any more, all of the tree is compiled.
-/

namespace PagedJoins.Tree

variable {κ : Type}

/-! ## Places -/

/-- The tree at a place of another one. -/
def at? : Place → Tree κ → Option (Tree κ)
  | [], tree => some tree
  | index :: place, tree => tree.children[index]?.bind (at? place)

/-- A tree that is part of another one, at a place there. -/
structure Subtree (κ : Type) where
  place : Place
  tree : Tree κ

mutual

/-- All subtrees of a tree at some place, each before those that are part of it. -/
def subtreesFrom (place : Place) : Tree κ → List (Subtree κ)
  | mk node children => ⟨place, mk node children⟩ :: subtreesUnder place 0 children

/-- All subtrees of the children of a relation, from one of them on. -/
def subtreesUnder (place : Place) (index : Nat) : List (Tree κ) → List (Subtree κ)
  | [] => []
  | tree :: rest =>
    tree.subtreesFrom (place ++ [index]) ++ subtreesUnder place (index + 1) rest

end

/-- The subtrees of a part of a tree. -/
def Subtree.subtrees (subtree : Subtree κ) : List (Subtree κ) :=
  subtree.tree.subtreesFrom subtree.place

mutual

theorem length_subtreesFrom (place : Place) :
    (tree : Tree κ) → (tree.subtreesFrom place).length = tree.size
  | mk node children => by
    rw [subtreesFrom, List.length_cons, length_subtreesUnder place 0 children, size, Nat.add_comm]

theorem length_subtreesUnder (place : Place) (index : Nat) :
    (trees : List (Tree κ)) → (subtreesUnder place index trees).length = sizes trees
  | [] => rfl
  | tree :: rest => by
    rw [subtreesUnder, List.length_append, length_subtreesFrom (place ++ [index]) tree,
      length_subtreesUnder place (index + 1) rest, sizes]

end

mutual

/-- The subtrees of a tree are what is at its places. -/
theorem mem_subtreesFrom (base : Place) {subtree : Subtree κ} :
    (tree : Tree κ) → (subtree ∈ tree.subtreesFrom base ↔
      ∃ place, subtree.place = base ++ place ∧ tree.at? place = some subtree.tree)
  | mk node children => by
    rw [subtreesFrom, List.mem_cons, mem_subtreesUnder base 0 children]
    constructor
    · rintro (rfl | ⟨index, place, located, found⟩)
      · exact ⟨[], by simp, rfl⟩
      · exact ⟨index :: place, by simpa using located, found⟩
    · rintro ⟨_ | ⟨index, place⟩, located, found⟩
      · left
        obtain ⟨at', tree⟩ := subtree
        cases found
        simpa using located
      · exact .inr ⟨index, place, by simpa using located, found⟩

theorem mem_subtreesUnder (base : Place) (first : Nat) {subtree : Subtree κ} :
    (trees : List (Tree κ)) → (subtree ∈ subtreesUnder base first trees ↔
      ∃ index place, subtree.place = base ++ (first + index) :: place ∧
        trees[index]?.bind (at? place) = some subtree.tree)
  | [] => by simp [subtreesUnder]
  | tree :: rest => by
    rw [subtreesUnder, List.mem_append, mem_subtreesFrom (base ++ [first]) tree,
      mem_subtreesUnder base (first + 1) rest]
    constructor
    · rintro (⟨place, located, found⟩ | ⟨index, place, located, found⟩)
      · exact ⟨0, place, by simpa using located, by simpa using found⟩
      · refine ⟨index + 1, place, ?_, by simpa using found⟩
        rw [located, Nat.add_right_comm, Nat.add_assoc]
    · rintro ⟨_ | index, place, located, found⟩
      · exact .inl ⟨place, by simpa using located, by simpa using found⟩
      · refine .inr ⟨index, place, ?_, by simpa using found⟩
        rw [located, Nat.add_right_comm, Nat.add_assoc]

end

mutual

theorem nodup_subtreesFrom (base : Place) :
    (tree : Tree κ) → ((tree.subtreesFrom base).map (·.place)).Nodup
  | mk node children => by
    rw [subtreesFrom, List.map_cons, List.nodup_cons]
    refine ⟨?_, nodup_subtreesUnder base 0 children⟩
    intro member
    obtain ⟨subtree, inside, same⟩ := List.mem_map.mp member
    obtain ⟨index, place, located, -⟩ := (mem_subtreesUnder base 0 children).mp inside
    simp [located] at same

theorem nodup_subtreesUnder (base : Place) (first : Nat) :
    (trees : List (Tree κ)) → ((subtreesUnder base first trees).map (·.place)).Nodup
  | [] => List.nodup_nil
  | tree :: rest => by
    rw [subtreesUnder, List.map_append]
    apply List.Nodup.append (nodup_subtreesFrom _ tree) (nodup_subtreesUnder base (first + 1) rest)
    -- A place under the first child goes on with its index, and any other with a later one.
    intro there left right
    obtain ⟨subtree, inside, rfl⟩ := List.mem_map.mp left
    obtain ⟨other, behind, same⟩ := List.mem_map.mp right
    obtain ⟨place, located, -⟩ := (mem_subtreesFrom (base ++ [first]) tree).mp inside
    obtain ⟨index, place', located', -⟩ := (mem_subtreesUnder base (first + 1) rest).mp behind
    have equal : first = first + 1 + index := by
      rw [located, located'] at same
      simpa using congrArg (·[base.length]?) same.symm
    omega

end

theorem mem_subtrees {tree : Tree κ} {subtree : Subtree κ} :
    subtree ∈ tree.subtreesFrom [] ↔ tree.at? subtree.place = some subtree.tree := by
  rw [mem_subtreesFrom]
  simp

/-! ## One call -/

namespace Visit

/-- The visited relations that have to wait. -/
def waiting (visits : List (Visit κ)) : List (Visit κ) :=
  visits.filter waits

/-- The part of the tree that the walk has come to. -/
def subtree (visit : Visit κ) : Subtree κ :=
  ⟨visit.place, visit.tree⟩

/-- What a visit accounts for: if the relation has to wait, all that is under it does. -/
def covers (visit : Visit κ) : List (Subtree κ) :=
  if visit.waits then visit.subtree.subtrees else [visit.subtree]

/-- The trees put off are those that have to wait. -/
theorem map_tree_putOff (visits : List (Visit κ)) :
    (putOff visits).map (·.tree) = (waiting visits).map (·.tree) := by
  induction visits with
  | nil => rfl
  | cons visit rest ih =>
      cases waits : visit.waits with
      | true =>
          obtain ⟨parent, under⟩ := Option.isSome_iff_exists.mp (Bool.and_eq_true_iff.mp waits).1
          simpa [putOff, waiting, deferred?, waits, under] using ih
      | false => simpa [putOff, waiting, deferred?, waits] using ih

/-- What some visits account for is what does not have to wait and all that is under what has to. -/
theorem covers_perm (visits : List (Visit κ)) :
    (visits.flatMap covers).Perm
      ((joined visits).map subtree ++ (waiting visits).flatMap (·.subtree.subtrees)) := by
  induction visits with
  | nil => exact .refl _
  | cons visit rest ih =>
      rw [List.flatMap_cons, covers]
      cases waits : visit.waits with
      | true =>
          rw [joined_cons_of_waits rest waits, waiting, List.filter_cons_of_pos waits, ← waiting]
          exact (ih.append_left _).trans (List.perm_append_comm_assoc ..)
      | false =>
          rw [joined_cons_of_not_waits rest waits, waiting,
            List.filter_cons_of_neg (by simp [waits]), ← waiting]
          exact ih.cons _

end Visit

mutual

/-- The walk through a tree accounts for all of it. -/
theorem covers_visitsFrom (place : Place) (parent : Option String) :
    (tree : Tree κ) →
    (tree.visitsFrom place parent).flatMap Visit.covers = tree.subtreesFrom place
  | mk node children => by
    have below := covers_visitsUnder place 0 node.aliasName children
    rw [visitsFrom, List.flatMap_cons, Visit.covers, Visit.waits, Tree.node]
    cases parent.isSome && node.isBatched with
    | true => simp [Visit.subtree, Subtree.subtrees]
    | false => simp [Visit.subtree, subtreesFrom, below]

theorem covers_visitsUnder (place : Place) (index : Nat) (parent : String) :
    (trees : List (Tree κ)) →
    (visitsUnder place index parent trees).flatMap Visit.covers =
      subtreesUnder place index trees
  | [] => rfl
  | tree :: rest => by
    rw [visitsUnder, List.flatMap_append, covers_visitsFrom (place ++ [index]) (some parent) tree,
      covers_visitsUnder place (index + 1) parent rest, subtreesUnder]

end

/-- How far a tree has been compiled. -/
structure Progress (κ : Type) where
  compiled : List (Subtree κ × Compiled)
  waiting : List (Subtree κ)

namespace Progress

/-- What one call gives: the relations that are compiled, and the trees that are put off, each with
the place that the walk has come to it at. -/
def ofCall (called : Subtree κ) (result : Result κ) : Progress κ where
  compiled := ((Visit.joined (called.tree.visitsFrom called.place none)).map Visit.subtree).zip
    result.nodes
  waiting := List.zipWith Subtree.mk
    ((Visit.waiting (called.tree.visitsFrom called.place none)).map (·.place))
    (result.deferred.map (·.tree))

/-- The subtrees that are accounted for: each is compiled, or it is part of one that waits. -/
def subtrees (progress : Progress κ) : List (Subtree κ) :=
  progress.compiled.map (·.1) ++ progress.waiting.flatMap (·.subtrees)

/-- The number of relations that are not compiled. -/
def remaining (progress : Progress κ) : Nat :=
  sizes (progress.waiting.map (·.tree))

/-- What is compiled is what relations are compiled into. -/
def Sound (config : Config) (context : κ) (progress : Progress κ) : Prop :=
  ∀ entry ∈ progress.compiled, ∃ parent batch,
    (entry.1.tree.node.compile config parent context batch).outcome = .ok entry.2

section Call

variable {config : Config} {context : κ} {batch : Option (List Value)} (called : Subtree κ)
variable {result : Result κ}

theorem compiled_ofCall
    (succeeds : (called.tree.compile config context batch).outcome = .ok result) :
    (ofCall called result).compiled.map (·.1) =
      (Visit.joined (called.tree.visitsFrom called.place none)).map Visit.subtree := by
  obtain ⟨each, -⟩ := compile_eq_ok called.place succeeds
  exact List.map_fst_zip (by simpa using each.length_eq.le)

theorem waiting_ofCall
    (succeeds : (called.tree.compile config context batch).outcome = .ok result) :
    (ofCall called result).waiting =
      (Visit.waiting (called.tree.visitsFrom called.place none)).map Visit.subtree := by
  obtain ⟨-, deferred⟩ := compile_eq_ok called.place succeeds
  rw [ofCall, deferred, Visit.map_tree_putOff, List.zipWith_map, List.zipWith_self]
  rfl

/-- A call accounts for all of its tree. -/
theorem subtrees_ofCall
    (succeeds : (called.tree.compile config context batch).outcome = .ok result) :
    (ofCall called result).subtrees.Perm called.subtrees := by
  rw [subtrees, compiled_ofCall called succeeds, waiting_ofCall called succeeds, List.flatMap_map,
    Subtree.subtrees, ← covers_visitsFrom called.place none called.tree]
  exact (Visit.covers_perm _).symm

theorem length_compiled_ofCall
    (succeeds : (called.tree.compile config context batch).outcome = .ok result) :
    (ofCall called result).compiled.length = result.nodes.length := by
  obtain ⟨each, -⟩ := compile_eq_ok called.place succeeds
  simp [ofCall, each.length_eq]

theorem remaining_ofCall
    (succeeds : (called.tree.compile config context batch).outcome = .ok result) :
    (ofCall called result).remaining = sizes (result.deferred.map (·.tree)) := by
  obtain ⟨-, deferred⟩ := compile_eq_ok called.place succeeds
  rw [remaining, waiting_ofCall called succeeds, deferred, Visit.map_tree_putOff, List.map_map]
  rfl

theorem compiled_ofCall_ne_nil
    (succeeds : (called.tree.compile config context batch).outcome = .ok result) :
    (ofCall called result).compiled ≠ [] := by
  intro none
  have parts := compiled_ofCall called succeeds
  rw [none, joined_visitsFrom_root] at parts
  cases parts

theorem sound_ofCall
    (succeeds : (called.tree.compile config context batch).outcome = .ok result) :
    (ofCall called result).Sound config context := by
  intro entry member
  obtain ⟨each, -⟩ := compile_eq_ok called.place succeeds
  rw [ofCall, List.zip_map_left] at member
  obtain ⟨⟨visit, compiled⟩, paired, rfl⟩ := List.mem_map.mp member
  exact ⟨_, _, List.forall₂_zip each paired⟩

end Call

/-! ## Rounds -/

theorem length_flatMap_subtrees (trees : List (Subtree κ)) :
    (trees.flatMap (·.subtrees)).length = sizes (trees.map (·.tree)) := by
  induction trees with
  | nil => rfl
  | cons head tail ih =>
      rw [List.flatMap_cons, List.length_append, ih, Subtree.subtrees, length_subtreesFrom,
        List.map_cons, sizes]

theorem length_subtrees (progress : Progress κ) :
    progress.subtrees.length = progress.compiled.length + progress.remaining := by
  rw [subtrees, List.length_append, List.length_map, length_flatMap_subtrees, remaining]

theorem perm_of_moved {α : Type} (done before after : List α) {split back whole : List α}
    (parts : (split ++ back).Perm whole) :
    (done ++ split ++ (before ++ back ++ after)).Perm (done ++ (before ++ (whole ++ after))) :=
  calc done ++ split ++ (before ++ back ++ after)
      = done ++ (split ++ (before ++ (back ++ after))) := by simp
    List.Perm _ (done ++ (before ++ (split ++ (back ++ after)))) :=
      (List.perm_append_comm_assoc ..).append_left done
    _ = done ++ (before ++ (split ++ back ++ after)) := by simp
    List.Perm _ (done ++ (before ++ (whole ++ after))) :=
      ((parts.append_right after).append_left before).append_left done

section Round

variable (config : Config) (context : κ)

/-- In a round, one of the trees that wait is compiled with a batch. -/
inductive Round (progress : Progress κ) : Progress κ → Prop
  | call (before after : List (Subtree κ)) {called : Subtree κ} {scope : List Value}
      {result : Result κ} (waits : progress.waiting = before ++ called :: after)
      (filled : scope ≠ [])
      (succeeds : (called.tree.compile config context (some scope)).outcome = .ok result) :
      Round progress
        ⟨progress.compiled ++ (ofCall called result).compiled,
          before ++ (ofCall called result).waiting ++ after⟩

variable {config context} {progress later : Progress κ}

/-- A round neither loses a subtree nor accounts for one twice. -/
theorem Round.subtrees_perm (round : Round config context progress later) :
    later.subtrees.Perm progress.subtrees := by
  obtain ⟨before, after, waits, -, succeeds⟩ := round
  simp only [subtrees, waits, List.map_append, List.flatMap_append, List.flatMap_cons]
  exact perm_of_moved _ _ _ (subtrees_ofCall _ succeeds)

/-- A round compiles something. -/
theorem Round.remaining_lt (round : Round config context progress later) :
    later.remaining < progress.remaining := by
  -- There are as many subtrees as before, and more of them are compiled, so fewer are left.
  have same := round.subtrees_perm.length_eq
  have more : progress.compiled.length < later.compiled.length := by
    obtain ⟨before, after, waits, -, succeeds⟩ := round
    simpa [List.length_pos_iff] using compiled_ofCall_ne_nil _ succeeds
  rw [length_subtrees, length_subtrees] at same
  omega

/-- Rounds come to an end. -/
theorem wellFounded_round (config : Config) (context : κ) :
    WellFounded fun later progress : Progress κ => Round config context progress later :=
  Subrelation.wf Round.remaining_lt (measure remaining).wf

theorem Round.sound (round : Round config context progress later)
    (sound : progress.Sound config context) : later.Sound config context := by
  obtain ⟨before, after, waits, -, succeeds⟩ := round
  intro entry member
  obtain member | member := List.mem_append.mp member
  · exact sound entry member
  · exact sound_ofCall _ succeeds entry member

/-- Rounds neither lose a subtree nor account for one twice. -/
theorem subtrees_perm_of_rounds
    (rounds : Relation.ReflTransGen (Round config context) progress later) :
    later.subtrees.Perm progress.subtrees := by
  induction rounds with
  | refl => exact .refl _
  | tail _ round ih => exact round.subtrees_perm.trans ih

theorem sound_of_rounds (rounds : Relation.ReflTransGen (Round config context) progress later)
    (sound : progress.Sound config context) : later.Sound config context := by
  induction rounds with
  | refl => exact sound
  | tail _ round ih => exact round.sound ih

end Round

section Whole

variable {progress : Progress κ} {tree : Tree κ}

/-- What is compiled of a tree is at its place there. -/
theorem at?_of_mem_compiled (whole : progress.subtrees.Perm (tree.subtreesFrom []))
    {entry : Subtree κ × Compiled} (member : entry ∈ progress.compiled) :
    tree.at? entry.1.place = some entry.1.tree := by
  apply mem_subtrees.mp
  apply whole.subset
  exact List.mem_append_left _ (List.mem_map_of_mem member)

/-- When nothing waits, what is at each place of a tree is compiled, and only once. -/
theorem count_of_done (whole : progress.subtrees.Perm (tree.subtreesFrom []))
    (done : progress.waiting = []) {place : Place} {part : Tree κ}
    (there : tree.at? place = some part) :
    (progress.compiled.map (·.1.place)).count place = 1 := by
  rw [subtrees, done, List.flatMap_nil, List.append_nil] at whole
  have places := whole.map (·.place)
  rw [List.map_map] at places
  apply List.count_eq_one_of_mem
  · exact places.nodup_iff.mpr (nodup_subtreesFrom [] tree)
  · apply places.mem_iff.mpr
    exact List.mem_map.mpr ⟨⟨place, part⟩, mem_subtrees.mpr there, rfl⟩

end Whole

end Progress

theorem size_of_compile {config : Config} {tree : Tree κ} {context : κ}
    {batch : Option (List Value)} {result : Result κ}
    (succeeds : (tree.compile config context batch).outcome = .ok result) :
    tree.size = result.nodes.length + sizes (result.deferred.map (·.tree)) := by
  have whole : (Progress.ofCall ⟨[], tree⟩ result).subtrees.Perm (tree.subtreesFrom []) :=
    Progress.subtrees_ofCall ⟨[], tree⟩ succeeds
  have parts := whole.length_eq
  rw [Progress.length_subtrees, Progress.length_compiled_ofCall ⟨[], tree⟩ succeeds,
    Progress.remaining_ofCall ⟨[], tree⟩ succeeds, length_subtreesFrom] at parts
  exact parts.symm

/-- Nothing of a tree is lost and nothing is compiled twice, whatever is put off. Each call compiles
or puts off all relations of its tree. However the trees that wait are taken up, each with some
batch, this comes to an end; at any time, each subtree has been compiled or is part of one that
waits, and when nothing waits, the relation at each place has been compiled once. -/
theorem rounds_compile_each_once {config : Config} {tree : Tree κ} {context : κ}
    {batch : Option (List Value)} {result : Result κ}
    (succeeds : (tree.compile config context batch).outcome = .ok result) :
    let first := Progress.ofCall ⟨[], tree⟩ result
    (∀ (called : Tree κ) scope returned,
      (called.compile config context scope).outcome = .ok returned →
      called.size = returned.nodes.length + sizes (returned.deferred.map (·.tree))) ∧
    (¬ ∃ run : Nat → Progress κ,
      run 0 = first ∧ ∀ n, (run n).Round config context (run (n + 1))) ∧
    ∀ last, Relation.ReflTransGen (Progress.Round config context) first last →
      last.subtrees.Perm (tree.subtreesFrom []) ∧
      (∀ entry ∈ last.compiled, tree.at? entry.1.place = some entry.1.tree ∧
        ∃ parent batch, (entry.1.tree.node.compile config parent context batch).outcome =
          .ok entry.2) ∧
      (last.waiting = [] → ∀ place part, tree.at? place = some part →
        (last.compiled.map (·.1.place)).count place = 1) := by
  intro first
  refine ⟨fun called scope returned => size_of_compile, ?_, ?_⟩
  · rintro ⟨run, starts, rounds⟩
    have ends := (Progress.wellFounded_round config context).apply first
    exact (acc_iff_isEmpty_descending_chain.mp ends).false ⟨run, starts, rounds⟩
  · intro last rounds
    have whole : last.subtrees.Perm (tree.subtreesFrom []) :=
      (Progress.subtrees_perm_of_rounds rounds).trans (Progress.subtrees_ofCall ⟨[], tree⟩ succeeds)
    have sound := Progress.sound_of_rounds rounds (Progress.sound_ofCall ⟨[], tree⟩ succeeds)
    refine ⟨whole, ?_, ?_⟩
    · intro entry member
      exact ⟨Progress.at?_of_mem_compiled whole member, sound entry member⟩
    · intro done place part there
      exact Progress.count_of_done whole done there

/-- The payments for a batch of orders. -/
def payments : Tree Unit :=
  mk { table := "payments", aliasName := "y", batch := some ⟨⟨"order_id"⟩, ⟨"id"⟩⟩ } []

/-- The orders of a batch of users, with the payments for them and their items. -/
def orders : Tree Unit :=
  mk { table := "orders", aliasName := "o", batch := some ⟨⟨"user_id"⟩, ⟨"id"⟩⟩ }
    [payments,
      mk {
        table := "items"
        aliasName := "i"
        join := some fun scope => .ok (scope.parent ++ ".id = " ++ scope.child ++ ".order_id")
      } []]

/-- Users with their orders. -/
def users : Tree Unit :=
  mk { table := "users", aliasName := "u" } [orders]

/-- The users are compiled in three calls: without their orders, then the orders with their items,
and then the payments. -/
theorem rounds_compile_each_once_users :
    ∃ result last,
      (users.compile {} () none).outcome = .ok result ∧
      Relation.ReflTransGen (Progress.Round {} ()) (Progress.ofCall ⟨[], users⟩ result) last ∧
      last.waiting = [] ∧
      (last.compiled.map (·.1.place)).count [] = 1 ∧
      (last.compiled.map (·.1.place)).count [0] = 1 ∧
      (last.compiled.map (·.1.place)).count [0, 0] = 1 ∧
      (last.compiled.map (·.1.place)).count [0, 1] = 1 := by
  have compiles : ∃ result, (users.compile {} () none).outcome = .ok result := by
    rw [compile_eq_compileVisits {} () _ []]
    exact ⟨_, rfl⟩
  have compiles₁ : ∃ result,
      (orders.compile {} () (some [.text "ada"])).outcome = .ok result := by
    rw [compile_eq_compileVisits {} () _ []]
    exact ⟨_, rfl⟩
  have compiles₂ : ∃ result,
      (payments.compile {} () (some [.text "o1", .text "o2"])).outcome = .ok result := by
    rw [compile_eq_compileVisits {} () _ []]
    exact ⟨_, rfl⟩
  obtain ⟨result, succeeds⟩ := compiles
  obtain ⟨result₁, succeeds₁⟩ := compiles₁
  obtain ⟨result₂, succeeds₂⟩ := compiles₂
  have waits : (Progress.ofCall ⟨[], users⟩ result).waiting = [⟨[0], orders⟩] :=
    Progress.waiting_ofCall ⟨[], users⟩ succeeds
  have waits₁ : (Progress.ofCall ⟨[0], orders⟩ result₁).waiting = [⟨[0, 0], payments⟩] :=
    Progress.waiting_ofCall ⟨[0], orders⟩ succeeds₁
  have waits₂ : (Progress.ofCall ⟨[0, 0], payments⟩ result₂).waiting = [] :=
    Progress.waiting_ofCall ⟨[0, 0], payments⟩ succeeds₂
  have round := Progress.Round.call [] [] waits (List.cons_ne_nil _ _) succeeds₁
  rw [waits₁] at round
  have rounds := (Relation.ReflTransGen.single round).tail
    (.call [] [] rfl (List.cons_ne_nil _ _) succeeds₂)
  rw [waits₂] at rounds
  obtain ⟨-, -, ends⟩ := rounds_compile_each_once succeeds
  obtain ⟨-, -, once⟩ := ends _ rounds
  exact ⟨result, _, succeeds, rounds, rfl, once rfl [] _ rfl, once rfl [0] _ rfl,
    once rfl [0, 0] _ rfl, once rfl [0, 1] _ rfl⟩

end PagedJoins.Tree
