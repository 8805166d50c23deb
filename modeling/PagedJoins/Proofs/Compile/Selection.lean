import PagedJoins.Compile.Link

/-!
# The choice of a strategy

The shape of a relation alone decides on its strategy: links that contradict each other are
refused, and then it matters only whether there is a junction, whether there are batch keys,
and whether there is a parent. A strategy asks for parts of the relation that the shape does
not hand over, so it has to look for them again. It always finds them, and what it finds is
the link of the relation.
-/

namespace PagedJoins

variable {κ : Type}

/-- Why the links of a relation contradict each other. -/
def Node.linkFault? (node : Node κ) : Option ConfigFault :=
  match node.junction with
  | some junction =>
    if node.join.isSome ∨ node.batch.isSome then some .linkBesideJunction
    else if junction.batch.isSome ∧ ¬ junction.joins.isEmpty then some .junctionJoinsAndBatch
    else none
  | none => if node.join.isSome ∧ node.batch.isSome then some .joinAndBatch else none

/-- The strategy for the shape of a relation, under a parent or not. -/
def Node.strategy (node : Node κ) (hasParent : Bool) : Except ConfigFault Strategy :=
  match node.linkFault? with
  | some fault => .error fault
  | none =>
    match node.cardinality, node.isBatched with
    | .oneToMany, true => .ok .batchedOneToMany
    | .manyToMany, true => .ok .batchedManyToMany
    | .oneToMany, false =>
      match node.join.isSome, hasParent with
      | true, true => .ok .joinedOneToMany
      | true, false => .error .joinWithoutParent
      | false, true => .error .childWithoutLink
      | false, false => .ok .root
    | .manyToMany, false =>
      match node.junction.elim 0 (·.joins.length), hasParent with
      | 0, _ => .error .junctionWithoutLink
      | 1, _ => .error .junctionWithOneJoin
      | _, true => .ok .joinedManyToMany
      | _, false => .error .joinWithoutParent

/-- Does a strategy need a batch? -/
def Strategy.isBatched : Strategy → Bool
  | root | joinedOneToMany | joinedManyToMany => false
  | batchedOneToMany | batchedManyToMany => true

/-- What a strategy might look for in vain. -/
inductive MissingPart where
  | parentAlias
  | junction
  | join
  | batch
  | junctionBatch
  | secondJoin
  deriving DecidableEq, Repr

/-- A part that has to be there. -/
def MissingPart.orElse {α : Type} (missing : MissingPart) : Option α → Except MissingPart α
  | some part => .ok part
  | none => .error missing

/-- The link that a strategy puts together from the parts that it finds. -/
def Strategy.link (node : Node κ) (parent : Option String) :
    Strategy → Except MissingPart (Link κ)
  | root => return .root
  | joinedOneToMany => do
    let parent ← MissingPart.parentAlias.orElse parent
    let on ← MissingPart.join.orElse node.join
    return .joined parent on
  | joinedManyToMany => do
    let parent ← MissingPart.parentAlias.orElse parent
    let junction ← MissingPart.junction.orElse node.junction
    let toJunction ← MissingPart.secondJoin.orElse junction.joins[0]?
    let toNode ← MissingPart.secondJoin.orElse junction.joins[1]?
    return .joinedThrough parent junction toJunction toNode
  | batchedOneToMany => do
    let keys ← MissingPart.batch.orElse node.batch
    return .batched keys
  | batchedManyToMany => do
    let junction ← MissingPart.junction.orElse node.junction
    let batch ← MissingPart.junctionBatch.orElse junction.batch
    return .batchedThrough junction batch

variable {node : Node κ} {parent : Option String}

theorem Node.strategy_of_direct (alone : node.junction = none) :
    node.strategy parent.isSome = Link.strategy <$> directLink node.join node.batch parent := by
  simp only [strategy, linkFault?, cardinality, isBatched, alone]
  cases node.join with
  | none =>
      cases node.batch with
      | none => cases parent <;> rfl
      | some keys => cases parent <;> rfl
  | some on =>
      cases node.batch with
      | none => cases parent <;> rfl
      | some keys => cases parent <;> rfl

theorem Node.strategy_of_junction {junction : Junction κ} (through : node.junction = some junction)
    (only : ¬ (node.join.isSome ∨ node.batch.isSome)) :
    node.strategy parent.isSome = Link.strategy <$> junction.link parent := by
  have unjoined : node.join = none := by
    simpa using fun given => only (.inl given)
  have unbatched : node.batch = none := by
    simpa using fun given => only (.inr given)
  simp only [strategy, linkFault?, cardinality, isBatched, Junction.link, through, unjoined,
    unbatched]
  obtain ⟨table, aliasName, filter, orderBy, sortKey, joins, batch⟩ := junction
  cases batch with
  | some batch =>
      match joins with
      | [] => cases parent <;> rfl
      | _ :: _ => cases parent <;> rfl
  | none =>
      match joins with
      | [] => cases parent <;> rfl
      | [_] => cases parent <;> rfl
      | _ :: _ :: _ => cases parent <;> rfl

/-- The shape of a relation decides on the strategy of its link, and refuses it for the same
cause. -/
theorem Node.strategy_eq (node : Node κ) (parent : Option String) :
    node.strategy parent.isSome = Link.strategy <$> node.link parent := by
  unfold Node.link
  split
  · rename_i junction through
    split
    · rename_i beside
      simp only [strategy, linkFault?, through, if_pos beside]
      rfl
    · rename_i only
      exact strategy_of_junction through only
  · rename_i alone
    exact strategy_of_direct alone

theorem MissingPart.orElse_bind {α β : Type} {missing : MissingPart} {option : Option α} {part : α}
    (found : option = some part) (next : α → Except MissingPart β) :
    missing.orElse option >>= next = next part := by
  rw [found]
  rfl

theorem Strategy.link_of_direct {link : Link κ}
    (chosen : directLink node.join node.batch parent = .ok link) :
    link.strategy.link node parent = .ok link := by
  unfold directLink at chosen
  split at chosen
  · cases chosen
  · rename_i batched
    cases chosen
    rw [Link.strategy, Strategy.link, MissingPart.orElse_bind batched]
    rfl
  · rename_i joined _
    cases chosen
    rw [Link.strategy, Strategy.link, MissingPart.orElse_bind rfl,
      MissingPart.orElse_bind joined]
    rfl
  · cases chosen
  · cases chosen
  · cases chosen
    rfl

theorem Strategy.link_of_junction {junction : Junction κ} {link : Link κ}
    (through : node.junction = some junction) (chosen : junction.link parent = .ok link) :
    link.strategy.link node parent = .ok link := by
  unfold Junction.link at chosen
  split at chosen
  · cases chosen
  · rename_i batched _
    cases chosen
    rw [Link.strategy, Strategy.link, MissingPart.orElse_bind through,
      MissingPart.orElse_bind batched]
    rfl
  · cases chosen
  · cases chosen
  · cases chosen
  · rename_i joins
    cases chosen
    rw [Link.strategy, Strategy.link, MissingPart.orElse_bind rfl,
      MissingPart.orElse_bind through, joins]
    rfl

/-- A strategy that was chosen for a relation finds all of its parts in it: they make up the link
of the relation. -/
theorem Node.link_of_strategy {strategy : Strategy}
    (chosen : node.strategy parent.isSome = .ok strategy) :
    ∃ link, strategy.link node parent = .ok link ∧ node.link parent = .ok link ∧
      link.strategy = strategy := by
  rw [strategy_eq] at chosen
  cases found : node.link parent with
  | error fault =>
      rw [found] at chosen
      cases chosen
  | ok link =>
      rw [found] at chosen
      cases chosen
      refine ⟨link, ?_, rfl, rfl⟩
      unfold Node.link at found
      split at found
      · rename_i junction through
        split at found
        · cases found
        · exact Strategy.link_of_junction through found
      · exact Strategy.link_of_direct found

theorem Node.isBatched_of_strategy {strategy : Strategy} {hasParent : Bool}
    (chosen : node.strategy hasParent = .ok strategy) : strategy.isBatched = node.isBatched := by
  unfold Node.strategy at chosen
  split at chosen
  · cases chosen
  · split at chosen
    · rename_i batched
      cases chosen
      exact batched.symm
    · rename_i batched
      cases chosen
      exact batched.symm
    · rename_i unbatched
      rw [unbatched]
      split at chosen
      · cases chosen
        rfl
      · cases chosen
      · cases chosen
      · cases chosen
        rfl
    · rename_i unbatched
      rw [unbatched]
      split at chosen
      · cases chosen
      · cases chosen
      · cases chosen
        rfl
      · cases chosen

end PagedJoins
