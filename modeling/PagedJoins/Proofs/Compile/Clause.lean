import Mathlib.Data.List.Flatten
import Mathlib.Data.List.Nodup
import PagedJoins.Proofs.Compile.Shape
import PagedJoins.Proofs.Compile.Walk

/-!
# The clause of a tree

The fragments of a compiled tree make up a single clause: the root opens it, and every other
relation is joined to what stands before it, on a condition that may speak of its parent. So
the parent has to stand before it, and no two tables may have the same alias.
-/

namespace PagedJoins

/-- Fragments that make up a single clause: the first one opens it, and only that one does. -/
def OneClause (dialect : Dialect) (fragments : List Fragment) : Prop :=
  ∃ first others, fragments = first :: others ∧
    (first.kind = .derived ∨ first.kind = .values) ∧
    BeginsWith "FROM " (first.render dialect) ∧
    ∀ other ∈ others,
      ¬ (other.kind = .derived ∨ other.kind = .values) ∧
      ¬ BeginsWith "FROM " (other.render dialect) ∧
      ∃ words ∈ joinWords, BeginsWith words (other.render dialect)

theorem FragmentKind.opens_iff (kind : FragmentKind) :
    kind.opens = true ↔ kind = .derived ∨ kind = .values := by
  cases kind <;> simp [opens]

theorem oneClause_of_opens (dialect : Dialect) {first : Fragment} {others : List Fragment}
    (opens : first.kind.opens = true) (join : ∀ other ∈ others, other.kind.opens = false) :
    OneClause dialect (first :: others) := by
  refine ⟨first, others, rfl, first.kind.opens_iff.mp opens,
    Fragment.render_of_opens dialect opens, ?_⟩
  intro other member
  obtain ⟨words, joining, begins⟩ := Fragment.render_of_not_opens dialect (join other member)
  refine ⟨?_, not_begins_of_joinWords joining begins, words, joining, begins⟩
  rw [← FragmentKind.opens_iff, join other member]
  simp

/-! ## Text -/

theorem renderFragments_append (dialect : Dialect) {front back : List Fragment}
    (some : front ≠ []) (more : back ≠ []) :
    renderFragments dialect (front ++ back) =
      renderFragments dialect front ++ "\n" ++ renderFragments dialect back := by
  rw [renderFragments, List.map_append]
  apply String.intercalate_append_of_ne_nil <;> simpa

/-- The text of some relations is that of each of them on lines of its own. -/
theorem renderFragments_allFragments (dialect : Dialect) (nodes : List Compiled)
    (some : ∀ compiled ∈ nodes, compiled.fragments ≠ []) :
    renderFragments dialect (allFragments nodes) =
      "\n".intercalate (nodes.map (·.render dialect)) := by
  induction nodes with
  | nil => rfl
  | cons head tail ih =>
      have behind := ih fun compiled member => some compiled (.tail _ member)
      cases tail with
      | nil =>
          rw [allFragments, List.flatMap_singleton, List.map_singleton]
          exact String.intercalate_singleton.symm
      | cons next rest =>
          have more : allFragments (next :: rest) ≠ [] := by
            simp [allFragments, some next (.tail _ (.head _))]
          calc renderFragments dialect (head.fragments ++ allFragments (next :: rest))
              = head.render dialect ++ "\n" ++
                  renderFragments dialect (allFragments (next :: rest)) :=
                renderFragments_append dialect (some head (.head _)) more
            _ = head.render dialect ++ "\n" ++
                  "\n".intercalate ((next :: rest).map (·.render dialect)) := by rw [behind]
            _ = "\n".intercalate ((head :: next :: rest).map (·.render dialect)) :=
                (String.intercalate_cons_of_ne_nil (by simp)).symm

theorem Node.compile_fragments_ne_nil {κ : Type} {config : Config} {node : Node κ}
    {parent : Option String} {context : κ} {batch : Option (List Value)} {compiled : Compiled}
    (succeeds : (node.compile config parent context batch).outcome = .ok compiled) :
    compiled.fragments ≠ [] := by
  have aliases := Node.compile_aliases succeeds
  intro none
  simp [none, fragmentAliases, Node.aliases] at aliases

namespace Tree

variable {κ : Type}

/-! ## Parents -/

/-- Does the parent of every relation stand before it, if some aliases do so already? -/
def Behind (known : List String) : List (Visit κ) → Prop
  | [] => True
  | visit :: rest =>
    (∃ parent ∈ known, visit.parent = some parent) ∧
      Behind (known ++ [visit.tree.node.aliasName]) rest

theorem Behind.append {known : List String} {front back : List (Visit κ)}
    (before : Behind known front)
    (after : Behind (known ++ front.map (·.tree.node.aliasName)) back) :
    Behind known (front ++ back) := by
  -- What is known grows along the list: a relation may be joined to any that stands before it.
  induction front generalizing known with
  | nil => simpa using after
  | cons visit rest ih =>
      obtain ⟨parent, before⟩ := before
      exact ⟨parent, ih before (by simpa using after)⟩

theorem Behind.parent_mem {known : List String} {visits : List (Visit κ)}
    (behind : Behind known visits) {index : Nat} {visit : Visit κ}
    (there : visits[index]? = some visit) :
    ∃ parent, visit.parent = some parent ∧
      parent ∈ known ++ (visits.take index).map (·.tree.node.aliasName) := by
  induction visits generalizing known index with
  | nil => cases there
  | cons head rest ih =>
      obtain ⟨⟨parent, member, under⟩, behind⟩ := behind
      cases index with
      | zero =>
          cases there
          exact ⟨parent, under, by simpa using member⟩
      | succ index => simpa using ih behind there

mutual

/-- The walk from a relation comes to it after its parent, and to each one below in the same way. -/
theorem behind_visitsFrom (place : Place) {known : List String} {parent : String}
    (member : parent ∈ known) :
    (tree : Tree κ) → Behind known (Visit.joined (tree.visitsFrom place (some parent)))
  | mk node children => by
    cases batched : node.isBatched with
    | true =>
      rw [visitsFrom_batched place node children parent batched,
        Visit.joined_cons_of_waits [] (by simp [Visit.waits, Tree.node, batched])]
      exact trivial
    | false =>
      rw [visitsFrom_joined place node children parent batched,
        Visit.joined_cons_of_not_waits _ (by simp [Visit.waits, Tree.node, batched])]
      exact ⟨⟨parent, member, rfl⟩, behind_visitsUnder place 0 (by simp [Tree.node]) children⟩

theorem behind_visitsUnder (place : Place) (index : Nat) {known : List String} {parent : String}
    (member : parent ∈ known) :
    (trees : List (Tree κ)) → Behind known (Visit.joined (visitsUnder place index parent trees))
  | [] => trivial
  | tree :: rest => by
    rw [visitsUnder, Visit.joined_append]
    apply Behind.append
    · exact behind_visitsFrom (place ++ [index]) member tree
    · exact behind_visitsUnder place (index + 1) (List.mem_append_left _ member) rest

end

theorem parent_of_joined {tree : Tree κ} {index : Nat} {visit : Visit κ}
    (there : (Visit.joined tree.visits)[index]? = some visit) :
    (index = 0 ∧ visit.parent = none) ∨
      ∃ parent, visit.parent = some parent ∧
        parent ∈ ((Visit.joined tree.visits).take index).map (·.tree.node.aliasName) := by
  rw [visits, joined_visitsFrom_root] at there ⊢
  cases index with
  | zero =>
      cases there
      exact .inl ⟨rfl, rfl⟩
  | succ index =>
      right
      have behind := behind_visitsUnder [] 0 (List.mem_singleton_self tree.node.aliasName)
        tree.children
      simpa using behind.parent_mem there

/-- A joined relation below the root is joined to a parent and has no batch. -/
theorem joined_below {tree : Tree κ} {visit : Visit κ}
    (member : visit ∈ Visit.joined (visitsUnder [] 0 tree.node.aliasName tree.children)) :
    (∃ parent, visit.parent = some parent) ∧ visit.tree.node.isBatched = false := by
  have behind := behind_visitsUnder [] 0 (List.mem_singleton_self tree.node.aliasName)
    tree.children
  obtain ⟨index, there⟩ := List.mem_iff_getElem?.mp member
  obtain ⟨parent, under, -⟩ := behind.parent_mem there
  have joins := (List.mem_filter.mp member).2
  exact ⟨⟨parent, under⟩, by simpa [Visit.waits, under] using joins⟩

/-! ## Aliases -/

mutual

/-- The aliases of the tables of all relations of a tree. -/
def aliases : Tree κ → List String
  | mk node children => node.aliases ++ aliasesUnder children

def aliasesUnder : List (Tree κ) → List String
  | [] => []
  | tree :: rest => tree.aliases ++ aliasesUnder rest

end

mutual

/-- The walk comes to no relation twice. -/
theorem aliases_visitsFrom (place : Place) (parent : Option String) :
    (tree : Tree κ) →
    ((tree.visitsFrom place parent).flatMap (·.tree.node.aliases)).Sublist tree.aliases
  | mk node children => by
    rw [visitsFrom, List.flatMap_cons, aliases]
    apply (List.Sublist.refl _).append
    split
    · exact List.nil_sublist _
    · exact aliases_visitsUnder place 0 node.aliasName children

theorem aliases_visitsUnder (place : Place) (index : Nat) (parent : String) :
    (trees : List (Tree κ)) →
    ((visitsUnder place index parent trees).flatMap (·.tree.node.aliases)).Sublist
      (aliasesUnder trees)
  | [] => List.nil_sublist _
  | tree :: rest => by
    rw [visitsUnder, List.flatMap_append, aliasesUnder]
    exact (aliases_visitsFrom (place ++ [index]) (some parent) tree).append
      (aliases_visitsUnder place (index + 1) parent rest)

end

theorem aliases_joined (tree : Tree κ) :
    ((Visit.joined tree.visits).flatMap (·.tree.node.aliases)).Sublist tree.aliases :=
  (List.filter_sublist.flatMap _).trans (aliases_visitsFrom [] none tree)

/-! ## The clause -/

section Clause

variable {config : Config} {context : κ} {batch : Option (List Value)}

theorem aliases_allFragments {visits : List (Visit κ)} {nodes : List Compiled}
    (each : List.Forall₂ (fun visit compiled =>
      (visit.compile config context batch).outcome = .ok compiled) visits nodes) :
    (allFragments nodes).map (·.aliasName) = visits.flatMap (·.tree.node.fragmentAliases) := by
  induction each with
  | nil => rfl
  | cons succeeds _ ih =>
      rw [allFragments, List.flatMap_cons, List.map_append, List.flatMap_cons,
        Node.compile_aliases succeeds, ← ih, allFragments]

/-- Only the root can bring in the table of a batch. -/
theorem fragmentAliases_joined (tree : Tree κ) :
    (Visit.joined tree.visits).flatMap (·.tree.node.fragmentAliases) =
      (if tree.node.isBatched then ["temp"] else []) ++
        (Visit.joined tree.visits).flatMap (·.tree.node.aliases) := by
  have below : ∀ visit ∈ Visit.joined (visitsUnder [] 0 tree.node.aliasName tree.children),
      visit.tree.node.fragmentAliases = visit.tree.node.aliases := by
    intro visit member
    simp [Node.fragmentAliases, (joined_below member).2]
  rw [visits, joined_visitsFrom_root, List.flatMap_cons, List.flatMap_cons,
    List.flatMap_congr below, Node.fragmentAliases, List.append_assoc]

theorem aliases_of_compile {tree : Tree κ} {result : Result κ}
    (succeeds : (tree.compile config context batch).outcome = .ok result) :
    (allFragments result.nodes).map (·.aliasName) =
      (if tree.node.isBatched then ["temp"] else []) ++
        (Visit.joined tree.visits).flatMap (·.tree.node.aliases) :=
  (aliases_allFragments (compile_eq_ok [] succeeds).1).trans (fragmentAliases_joined tree)

/-- If the tables of a tree have aliases of their own, so have the fragments. -/
theorem nodup_aliases_of_compile {tree : Tree κ} {result : Result κ}
    (succeeds : (tree.compile config context batch).outcome = .ok result)
    (distinct : tree.aliases.Nodup) (free : "temp" ∉ tree.aliases) :
    ((allFragments result.nodes).map (·.aliasName)).Nodup := by
  have among := aliases_joined tree
  rw [aliases_of_compile succeeds]
  split
  · exact List.nodup_cons.mpr ⟨fun member => free (among.subset member), among.nodup distinct⟩
  · exact among.nodup distinct

theorem alias_mem_of_compile {tree : Tree κ} {result : Result κ}
    (succeeds : (tree.compile config context batch).outcome = .ok result) {visit : Visit κ}
    (member : visit ∈ Visit.joined tree.visits) :
    visit.tree.node.aliasName ∈ (allFragments result.nodes).map (·.aliasName) := by
  rw [aliases_of_compile succeeds]
  apply List.mem_append_right
  exact List.mem_flatMap.mpr ⟨visit, member, by simp [Node.aliases]⟩

/-- The fragments of a compiled tree make up a clause that its root opens. -/
theorem oneClause_of_compile {tree : Tree κ} {result : Result κ}
    (succeeds : (tree.compile config context batch).outcome = .ok result) :
    OneClause config.dialect (allFragments result.nodes) := by
  obtain ⟨each, -⟩ := compile_eq_ok [] succeeds
  rw [joined_visitsFrom_root] at each
  -- The root may have a batch, and no other relation that is compiled here has one.
  obtain ⟨root, nodes, rooted, each, parts⟩ := List.forall₂_cons_left_iff.mp each
  obtain ⟨first, others, shape, opens, join⟩ := Node.compile_root rooted
  rw [parts, allFragments, List.flatMap_cons, shape]
  apply oneClause_of_opens config.dialect opens
  intro other member
  obtain member | member := List.mem_append.mp member
  · exact join other member
  · obtain ⟨compiled, inside, member⟩ := List.mem_flatMap.mp member
    obtain ⟨visit, walked, succeeds⟩ := exists_of_forall₂_of_mem each inside
    obtain ⟨⟨parent, under⟩, unbatched⟩ := joined_below walked
    rw [Visit.compile, under] at succeeds
    exact Node.compile_below unbatched succeeds other member

/-- A tree that is compiled is a clause of its own, and a well-scoped one. Its root opens the clause
and every other relation is joined to it, each after its parent and with the alias of that parent.
The text of the clause is that of the relations, one after another. And if the tables of the tree
have aliases of their own, so have the fragments. -/
theorem compile_composes_clause {tree : Tree κ} {result : Result κ}
    (succeeds : (tree.compile config context batch).outcome = .ok result) :
    let visits := Visit.joined tree.visits
    let fragments := allFragments result.nodes
    OneClause config.dialect fragments ∧
    List.Forall₂ (fun visit compiled =>
      (visit.compile config context batch).outcome = .ok compiled) visits result.nodes ∧
    (∀ index visit, visits[index]? = some visit →
      (index = 0 ∧ visit.parent = none) ∨
        ∃ parent, visit.parent = some parent ∧
          parent ∈ (allFragments (result.nodes.take index)).map (·.aliasName)) ∧
    renderFragments config.dialect fragments =
      "\n".intercalate (result.nodes.map (·.render config.dialect)) ∧
    (tree.aliases.Nodup → "temp" ∉ tree.aliases →
      (fragments.map (·.aliasName)).Nodup ∧
      ∀ visit ∈ visits,
        (fragments.map (·.aliasName)).count visit.tree.node.aliasName = 1) := by
  intro visits fragments
  obtain ⟨each, -⟩ := compile_eq_ok [] succeeds
  refine ⟨oneClause_of_compile succeeds, each, ?_, ?_, ?_⟩
  · intro index visit there
    obtain root | ⟨parent, under, before⟩ := parent_of_joined there
    · exact .inl root
    · refine .inr ⟨parent, under, ?_⟩
      obtain ⟨above, member, rfl⟩ := List.mem_map.mp before
      rw [aliases_allFragments (List.forall₂_take index each)]
      exact List.mem_flatMap.mpr ⟨above, member, by simp [Node.fragmentAliases, Node.aliases]⟩
  · apply renderFragments_allFragments
    intro compiled member
    obtain ⟨visit, -, succeeds⟩ := exists_of_forall₂_of_mem each member
    exact Node.compile_fragments_ne_nil succeeds
  · intro distinct free
    have own := nodup_aliases_of_compile succeeds distinct free
    exact ⟨own, fun visit member =>
      List.count_eq_one_of_mem own (alias_mem_of_compile succeeds member)⟩

end Clause

/-- The posts of a batch of users, with the reactions to them, which have to wait for a batch of
their own, and the comments on them. -/
def postsOfUsers : Tree Unit :=
  mk { table := "posts", aliasName := "p", batch := some ⟨⟨"author_id"⟩, ⟨"id"⟩⟩ }
    [mk { table := "reactions", aliasName := "r", batch := some ⟨⟨"post_id"⟩, ⟨"id"⟩⟩ } [],
      mk {
        table := "comments"
        aliasName := "c"
        join := some fun scope => .ok (scope.parent ++ ".id = " ++ scope.child ++ ".post_id")
      } []]

/-- The posts of two users and the comments on them are one clause, which the batch opens. The
comments stand behind the posts, and each of the two has its alias once. -/
theorem compile_composes_clause_postsOfUsers :
    ∃ result,
      (postsOfUsers.compile {} () (some [.text "ada", .text "bob"])).outcome = .ok result ∧
      postsOfUsers.aliases.Nodup ∧ "temp" ∉ postsOfUsers.aliases ∧
      OneClause .postgres (allFragments result.nodes) ∧
      "p" ∈ (allFragments (result.nodes.take 1)).map (·.aliasName) ∧
      ((allFragments result.nodes).map (·.aliasName)).count "p" = 1 ∧
      ((allFragments result.nodes).map (·.aliasName)).count "c" = 1 := by
  have compiles : ∃ result,
      (postsOfUsers.compile {} () (some [.text "ada", .text "bob"])).outcome = .ok result := by
    rw [compile_eq_compileVisits {} () _ []]
    exact ⟨_, rfl⟩
  obtain ⟨result, succeeds⟩ := compiles
  obtain ⟨clause, -, ordered, -, own⟩ := compile_composes_clause succeeds
  have distinct : postsOfUsers.aliases.Nodup := by decide
  have free : "temp" ∉ postsOfUsers.aliases := by decide
  obtain ⟨-, once⟩ := own distinct free
  refine ⟨result, succeeds, distinct, free, clause, ?_, once _ (.head _),
    once _ (.tail _ (.head _))⟩
  obtain ⟨root, -⟩ | ⟨parent, under, before⟩ := ordered 1 _ rfl
  · cases root
  · cases under
    exact before

end Tree

end PagedJoins
