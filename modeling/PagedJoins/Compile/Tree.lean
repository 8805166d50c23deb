import PagedJoins.Compile.Relation

/-!
# Compiling a tree of relations

A tree is compiled into one statement, every relation after its parent. A batched relation
below the root has to wait for the rows of its parent: it is put off with all that is
under it, and compiled as the root of a tree of its own once there is a batch for it.

The relations still to be visited are kept on a stack; the children of a relation come
before whatever waits behind it.
-/

namespace PagedJoins

/-- A relation and the relations nested in it. -/
inductive Tree (κ : Type) where
  | mk (node : Node κ) (children : List (Tree κ))

namespace Tree

variable {κ : Type}

/-- The relation at the root. -/
def node : Tree κ → Node κ
  | mk node _ => node

/-- The trees under the root. -/
def children : Tree κ → List (Tree κ)
  | mk _ children => children

mutual

/-- The number of relations. -/
def size : Tree κ → Nat
  | mk _ children => 1 + sizes children

/-- The number of relations in some trees. -/
def sizes : List (Tree κ) → Nat
  | [] => 0
  | tree :: rest => tree.size + sizes rest

end

theorem size_pos (tree : Tree κ) : 0 < tree.size := by
  obtain ⟨node, children⟩ := tree
  rw [size]
  omega

/-- A tree that waits for a batch, and the alias of the relation that its batch comes from. -/
structure Deferred (κ : Type) where
  parent : String
  tree : Tree κ

/-- The outcome of compiling a tree: its relations in the order of the statement, and the
trees that wait for a batch in the order in which they were reached. -/
structure Result (κ : Type) where
  nodes : List Compiled
  deferred : List (Deferred κ)

/-- A tree to be visited under a parent with an alias. -/
structure Pending (κ : Type) where
  parent : String
  tree : Tree κ

/-- The children of a tree, to be visited under it. -/
def pending (tree : Tree κ) : List (Pending κ) :=
  tree.children.map (⟨tree.node.aliasName, ·⟩)

/-- The number of relations still to be visited. -/
def stackSize : List (Pending κ) → Nat
  | [] => 0
  | entry :: stack => entry.tree.size + stackSize stack

theorem stackSize_append (front back : List (Pending κ)) :
    stackSize (front ++ back) = stackSize front + stackSize back := by
  induction front with
  | nil => simp [stackSize]
  | cons entry front ih => simp [stackSize, ih, Nat.add_assoc]

theorem stackSize_map (parent : String) (trees : List (Tree κ)) :
    stackSize (trees.map (⟨parent, ·⟩)) = sizes trees := by
  induction trees with
  | nil => rfl
  | cons tree trees ih => simp [stackSize, sizes, ih]

theorem stackSize_pending_append (tree : Tree κ) (stack : List (Pending κ)) :
    stackSize (tree.pending ++ stack) + 1 = tree.size + stackSize stack := by
  obtain ⟨node, children⟩ := tree
  rw [stackSize_append, pending, stackSize_map, size]
  simp only [Tree.children]
  omega

/-- Visit the trees on a stack, none of which is the root. -/
def compileStack (config : Config) (context : κ) : List (Pending κ) → Run (Result κ)
  | [] => return { nodes := [], deferred := [] }
  | ⟨parent, tree⟩ :: stack =>
    if tree.node.isBatched then do
      let rest ← compileStack config context stack
      return { rest with deferred := ⟨parent, tree⟩ :: rest.deferred }
    else do
      let compiled ← tree.node.compile config parent context none
      let rest ← compileStack config context (tree.pending ++ stack)
      return { rest with nodes := compiled :: rest.nodes }
termination_by stack => stackSize stack
decreasing_by
  · exact Nat.lt_add_of_pos_left tree.size_pos
  · have smaller := stackSize_pending_append tree stack
    show stackSize (tree.pending ++ stack) < tree.size + stackSize stack
    omega

/-- Compile a tree. A batch, if there is one, is that of the root. -/
def compile (config : Config) (tree : Tree κ) (context : κ) (batch : Option (List Value)) :
    Run (Result κ) := do
  let compiled ← tree.node.compile config none context batch
  let rest ← compileStack config context tree.pending
  return { rest with nodes := compiled :: rest.nodes }

end Tree

end PagedJoins
