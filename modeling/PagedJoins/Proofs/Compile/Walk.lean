import PagedJoins.Compile.Tree
import PagedJoins.Proofs.Sequence

/-!
# The walk through a tree

A walk comes to the relations of a tree, each before those under it and the children of a
relation in order, but it does not go on below a batched relation, unless that is the root.
Compiling a tree does just this, although what it goes by is a stack: it compiles the
relations that the walk comes to, each on its own, and puts off the batched ones.
-/

namespace PagedJoins.Tree

variable {κ : Type}

/-- A place in a tree: which child to take at each relation on the way down. -/
abbrev Place := List Nat

/-- A relation that a walk comes to, with all that is under it. Only the root has no parent. -/
structure Visit (κ : Type) where
  place : Place
  /-- The alias of the relation above. -/
  parent : Option String
  tree : Tree κ

namespace Visit

/-- Does the relation have to wait for a batch? -/
def waits (visit : Visit κ) : Bool :=
  visit.parent.isSome && visit.tree.node.isBatched

/-- What is put off if the relation has to wait. -/
def deferred? (visit : Visit κ) : Option (Deferred κ) :=
  if visit.waits then visit.parent.map (⟨·, visit.tree⟩) else none

/-- The relation compiled on its own. The batch is that of the root. -/
def compile (config : Config) (context : κ) (batch : Option (List Value)) (visit : Visit κ) :
    Run Compiled :=
  visit.tree.node.compile config visit.parent context
    (if visit.parent.isNone then batch else none)

/-- The visited relations that do not have to wait. -/
def joined (visits : List (Visit κ)) : List (Visit κ) :=
  visits.filter fun visit => !visit.waits

/-- The visited trees that have to wait. -/
def putOff (visits : List (Visit κ)) : List (Deferred κ) :=
  visits.filterMap deferred?

@[simp] theorem joined_append (front back : List (Visit κ)) :
    joined (front ++ back) = joined front ++ joined back :=
  List.filter_append ..

@[simp] theorem putOff_append (front back : List (Visit κ)) :
    putOff (front ++ back) = putOff front ++ putOff back :=
  List.filterMap_append ..

variable {visit : Visit κ} (visits : List (Visit κ))

theorem joined_cons_of_waits (waits : visit.waits = true) :
    joined (visit :: visits) = joined visits := by
  simp [joined, waits]

theorem joined_cons_of_not_waits (joins : visit.waits = false) :
    joined (visit :: visits) = visit :: joined visits := by
  simp [joined, joins]

theorem putOff_cons_of_not_waits (joins : visit.waits = false) :
    putOff (visit :: visits) = putOff visits := by
  simp [putOff, deferred?, joins]

end Visit

mutual

/-- The relations that a walk comes to in a tree at some place. -/
def visitsFrom (place : Place) (parent : Option String) : Tree κ → List (Visit κ)
  | mk node children =>
    ⟨place, parent, mk node children⟩ ::
      if parent.isSome && node.isBatched then []
      else visitsUnder place 0 node.aliasName children

/-- The relations that a walk comes to in the children of a relation, from one of them on. -/
def visitsUnder (place : Place) (index : Nat) (parent : String) :
    List (Tree κ) → List (Visit κ)
  | [] => []
  | tree :: rest =>
    tree.visitsFrom (place ++ [index]) (some parent) ++
      visitsUnder place (index + 1) parent rest

end

/-- The relations that a walk through a tree comes to. -/
def visits (tree : Tree κ) : List (Visit κ) :=
  tree.visitsFrom [] none

section Visits

variable (place : Place) (node : Node κ) (children : List (Tree κ))

theorem visitsFrom_root :
    (mk node children).visitsFrom place none =
      ⟨place, none, mk node children⟩ :: visitsUnder place 0 node.aliasName children := by
  simp [visitsFrom]

/-- The walk does not go on below a batched relation that is not the root. -/
theorem visitsFrom_batched (parent : String) (batched : node.isBatched = true) :
    (mk node children).visitsFrom place (some parent) =
      [⟨place, some parent, mk node children⟩] := by
  simp [visitsFrom, batched]

theorem visitsFrom_joined (parent : String) (joins : node.isBatched = false) :
    (mk node children).visitsFrom place (some parent) =
      ⟨place, some parent, mk node children⟩ ::
        visitsUnder place 0 node.aliasName children := by
  simp [visitsFrom, joins]

theorem joined_visitsFrom_root (tree : Tree κ) :
    Visit.joined (tree.visitsFrom place none) =
      ⟨place, none, tree⟩ ::
        Visit.joined (visitsUnder place 0 tree.node.aliasName tree.children) := by
  obtain ⟨node, children⟩ := tree
  rw [visitsFrom_root, Visit.joined_cons_of_not_waits _ rfl]
  rfl

end Visits

/-! ## The stack -/

/-- The results of two trees that stand beside each other. -/
instance : Append (Result κ) where
  append front back := ⟨front.nodes ++ back.nodes, front.deferred ++ back.deferred⟩

namespace Result

theorem append_assoc (front middle back : Result κ) :
    front ++ middle ++ back = front ++ (middle ++ back) :=
  congrArg₂ mk (List.append_assoc ..) (List.append_assoc ..)

theorem append_nil (result : Result κ) : result ++ ⟨[], []⟩ = result :=
  congrArg₂ mk (List.append_nil _) (List.append_nil _)

end Result

section Walk

variable (config : Config) (context : κ) (batch : Option (List Value))

/-- Compile the visited relations that do not have to wait, one after another. -/
def compileVisits (visits : List (Visit κ)) : Run (Result κ) := do
  let nodes ← (Visit.joined visits).mapM (Visit.compile config context batch)
  return { nodes, deferred := Visit.putOff visits }

theorem compileVisits_append (front back : List (Visit κ)) :
    compileVisits config context batch (front ++ back) = do
      let front ← compileVisits config context batch front
      let back ← compileVisits config context batch back
      return front ++ back := by
  simp only [compileVisits, Visit.joined_append, Visit.putOff_append, List.mapM_append,
    bind_assoc, pure_bind]
  rfl

theorem compileVisits_cons {visit : Visit κ} (joins : visit.waits = false)
    (visits : List (Visit κ)) :
    compileVisits config context batch (visit :: visits) = do
      let compiled ← visit.compile config context batch
      let rest ← compileVisits config context batch visits
      return { rest with nodes := compiled :: rest.nodes } := by
  simp only [compileVisits, Visit.joined_cons_of_not_waits visits joins,
    Visit.putOff_cons_of_not_waits visits joins, List.mapM_cons, bind_assoc, pure_bind]

theorem compileVisits_waiting {visit : Visit κ} {parent : String}
    (under : visit.parent = some parent) (batched : visit.tree.node.isBatched = true) :
    compileVisits config context batch [visit] = pure ⟨[], [⟨parent, visit.tree⟩]⟩ := by
  simp [compileVisits, Visit.joined, Visit.putOff, Visit.deferred?, Visit.waits, under, batched]

mutual

theorem compileStack_cons (place : Place) (parent : String) (stack : List (Pending κ)) :
    (tree : Tree κ) →
    compileStack config context (⟨parent, tree⟩ :: stack) = do
      let front ← compileVisits config context batch (tree.visitsFrom place (some parent))
      let back ← compileStack config context stack
      return front ++ back
  | mk node children => by
    -- The children go on top of what is behind the tree, so that is what they are walked before.
    have behind := compileStack_append place 0 node.aliasName stack children
    rw [compileStack]
    cases batched : node.isBatched with
    | true =>
      rw [if_pos (by simpa [Tree.node] using batched),
        visitsFrom_batched place node children parent batched,
        compileVisits_waiting config context batch rfl (by simpa [Tree.node] using batched),
        pure_bind]
      rfl
    | false =>
      rw [if_neg (by simp [Tree.node, batched]),
        visitsFrom_joined place node children parent batched,
        compileVisits_cons config context batch (by simp [Visit.waits, Tree.node, batched])]
      simp only [pending, Tree.children, Tree.node, behind, bind_assoc, pure_bind]
      rfl

/-- The children of a relation at the top of the stack are walked through in order. -/
theorem compileStack_append (place : Place) (index : Nat) (parent : String)
    (stack : List (Pending κ)) :
    (trees : List (Tree κ)) →
    compileStack config context (trees.map (⟨parent, ·⟩) ++ stack) = do
      let front ← compileVisits config context batch (visitsUnder place index parent trees)
      let back ← compileStack config context stack
      return front ++ back
  | [] => by
    rw [visitsUnder, List.map_nil, List.nil_append]
    exact (bind_pure _).symm
  | tree :: rest => by
    rw [visitsUnder, List.map_cons, List.cons_append,
      compileStack_cons (place ++ [index]) parent _ tree,
      compileStack_append place (index + 1) parent stack rest,
      compileVisits_append]
    simp only [bind_assoc, pure_bind, Result.append_assoc]

end

/-- A tree is compiled along the walk through it. -/
theorem compile_eq_compileVisits (place : Place) (tree : Tree κ) :
    tree.compile config context batch =
      compileVisits config context batch (tree.visitsFrom place none) := by
  obtain ⟨node, children⟩ := tree
  have behind := compileStack_append config context batch place 0 node.aliasName [] children
  rw [List.append_nil, compileStack] at behind
  rw [visitsFrom_root, compileVisits_cons config context batch rfl, compile]
  simp only [pending, Tree.children, Tree.node, behind, bind_assoc, pure_bind, Result.append_nil]
  rfl

/-- A tree that is compiled has a result for each relation that does not have to wait, and the
trees that have to. -/
theorem compile_eq_ok (place : Place) {config : Config} {context : κ}
    {batch : Option (List Value)} {tree : Tree κ} {result : Result κ}
    (succeeds : (tree.compile config context batch).outcome = .ok result) :
    List.Forall₂ (fun visit compiled =>
        (visit.compile config context batch).outcome = .ok compiled)
      (Visit.joined (tree.visitsFrom place none)) result.nodes ∧
    result.deferred = Visit.putOff (tree.visitsFrom place none) := by
  rw [compile_eq_compileVisits config context batch place, compileVisits] at succeeds
  obtain ⟨nodes, all, result⟩ := Run.bind_eq_ok succeeds
  rw [← Run.pure_eq_ok result]
  exact ⟨Run.forall₂_of_mapM_eq_ok all, rfl⟩

/-- Going through the children of a relation by a stack and walking down from each of them come to
the same. A tree is compiled exactly as the relations that the walk comes to and that do not have
to wait, each on its own and in the order of the walk: if all of them succeed, the result has what
they give, and the trees that have to wait; if not, it ends as the first that does not succeed, and
no callback of a later one is called. -/
theorem compile_follows_walk (tree : Tree κ) :
    let visits := Visit.joined tree.visits
    let run := tree.compile config context batch
    (∃ nodes,
      List.Forall₂ (fun visit compiled =>
        (visit.compile config context batch).outcome = .ok compiled) visits nodes ∧
      run.calls = visits.flatMap (fun visit => (visit.compile config context batch).calls) ∧
      run.outcome = .ok { nodes, deferred := Visit.putOff tree.visits }) ∨
    ∃ before visit after stop,
      visits = before ++ visit :: after ∧
      (∀ earlier ∈ before, ∃ compiled,
        (earlier.compile config context batch).outcome = .ok compiled) ∧
      (visit.compile config context batch).outcome = .stopped stop ∧
      run.calls =
        before.flatMap (fun earlier => (earlier.compile config context batch).calls) ++
          (visit.compile config context batch).calls ∧
      run.outcome = .stopped stop := by
  intro visits run
  have walked : run = compileVisits config context batch tree.visits :=
    compile_eq_compileVisits config context batch [] tree
  rw [compileVisits] at walked
  obtain ⟨nodes, each, all⟩ | ⟨before, visit, after, stop, parts, each, stops, all⟩ :=
    Run.mapM_cases (Visit.compile config context batch) visits
  · left
    rw [all, Run.bind_of_ok rfl] at walked
    refine ⟨nodes, each, ?_, ?_⟩
    · simp [walked]
    · rw [walked]
      rfl
  · right
    rw [all, Run.bind_of_stopped rfl] at walked
    exact ⟨before, visit, after, stop, parts, each, stops, by rw [walked], by rw [walked]⟩

end Walk

end PagedJoins.Tree
