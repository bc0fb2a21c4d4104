import Vivarium.Proofs.Rollcall
import Vivarium.Proofs.Visits

/-!
# Who is there

Which handles a store lists before and after a gene, a turn and a visit. A
handle that has been stamped before can only be lost to an attack, or by its
own turn; a handle that appears has a new stamp.
-/

namespace Vivarium

variable {σ : Type}

namespace Store

variable {store : Store} {handle : Handle}

def beyond (store other : Store) : List Handle :=
  store.handles.filter fun handle => handle ∉ other.handles

private theorem mem_beyond_iff {later : Store} :
    handle ∈ store.beyond later ↔
      handle ∈ store.handles ∧ handle ∉ later.handles := by
  rw [beyond, List.mem_filter, decide_eq_true_iff]

end Store

namespace Consistent

variable {world later : World} {store after : Store}
  {issued issuedLater : Nat} {out outLater : Option Creature}
  {handle : Handle}

theorem mem_handles_congr (consistent : Consistent world store issued out)
    (consistentLater : Consistent later after issuedLater outLater)
    (same : after.get handle = store.get handle) :
    handle ∈ after.handles ↔ handle ∈ store.handles := by
  rw [consistent.mem_handles_iff, consistentLater.mem_handles_iff, same]

/-- The next handle leads to nobody yet. -/
theorem get_allocate (consistent : Consistent world store issued out) :
    store.get (store.allocate issued).1 = none := by
  rw [Option.eq_none_iff_forall_ne_some]
  intro creature known
  have nobody := consistent.creature?_allocate
  rw [(Store.get_eq_some_iff.1 known).1] at nobody
  cases nobody

/-- A newcomer is not noticed under any other handle. -/
theorem get_spawn_of_ne (consistent : Consistent world store issued out)
    {child : Creature} (named : child.handle = (store.allocate issued).1)
    (different : handle ≠ child.handle) :
    ((store.allocate issued).2.1.set child.handle child).get handle =
      store.get handle := by
  have written := consistent.slot_spawn named handle.slot
  by_cases sameSlot : child.handle.slot = handle.slot
  · rw [if_pos sameSlot] at written
    have later :
        ((store.allocate issued).2.1.set child.handle child).get handle =
          none := by
      unfold Store.get
      rw [written]
      exact if_neg (Ne.symm different)
    have before : store.get handle = none := by
      rw [Option.eq_none_iff_forall_ne_some]
      intro creature known
      have nobody := consistent.creature?_allocate
      rw [← named, sameSlot, (Store.get_eq_some_iff.1 known).1] at nobody
      cases nobody
    rw [later, before]
  · rw [if_neg sameSlot] at written
    unfold Store.get
    rw [written]

end Consistent

namespace Turn

variable {turn after : Turn σ} {handle : Handle} {gene : Gene}

/-! ## Genes -/

section Genes

variable [Dice σ]

theorem Effect.issued_le (effect : Effect turn gene after) :
    turn.issued ≤ after.issued := by
  cases effect with
  | bred able unoccupied mutated inherits born =>
      show turn.issued ≤ (turn.store.allocate turn.issued).2.2
      rw [Store.issued_allocate]
      exact Nat.le_succ _
  | _ =>
      exact Nat.le_refl _

/-- A handle that appears has the stamp that was due. -/
private theorem Effect.known_before (inOrder : turn.InOrder)
    (effect : Effect turn gene after)
    (listed : handle ∈ after.store.handles) :
    handle ∈ turn.store.handles ∨ turn.issued ≤ handle.generation := by
  have consistent := inOrder.consistent
  have consistentAfter := (effect.inOrder inOrder).consistent
  cases effect with
  | @wounded victim occupied known strong =>
      by_cases same : handle = victim.handle
      · rw [same, consistent.mem_handles_iff]
        exact Or.inl ⟨victim, known⟩
      · have kept := Store.holds_of_get known
        exact Or.inl
          ((consistent.mem_handles_congr consistentAfter
            (Store.get_set_of_ne kept rfl same)).1 listed)
  | @killed victim occupied known weak =>
      by_cases same : handle = victim.handle
      · rw [same, consistent.mem_handles_iff]
        exact Or.inl ⟨victim, known⟩
      · have kept := Store.holds_of_get known
        exact Or.inl
          ((consistent.mem_handles_congr consistentAfter
            (Store.get_release_of_ne kept same)).1 listed)
  | @bred _ _ child able unoccupied mutated inherits born =>
      have named : child.handle = (turn.store.allocate turn.issued).1 :=
        congrArg Creature.handle born
      by_cases same : handle = child.handle
      · rw [same, named, Store.generation_allocate]
        exact Or.inr (Nat.le_refl _)
      · exact Or.inl
          ((consistent.mem_handles_congr consistentAfter
            (consistent.get_spawn_of_ne named same)).1 listed)
  | _ =>
      exact Or.inl listed

/-- Only an attack takes somebody away. -/
private theorem Effect.known_after (inOrder : turn.InOrder)
    (effect : Effect turn gene after) (harmless : gene ≠ .attack)
    (listed : handle ∈ turn.store.handles) :
    handle ∈ after.store.handles := by
  have consistent := inOrder.consistent
  have consistentAfter := (effect.inOrder inOrder).consistent
  cases effect with
  | missed | unresolved | wounded | killed =>
      exact absurd rfl harmless
  | @bred _ _ child able unoccupied mutated inherits born =>
      have named : child.handle = (turn.store.allocate turn.issued).1 :=
        congrArg Creature.handle born
      have different : handle ≠ child.handle := by
        intro same
        rcases consistent.mem_handles_iff.1 listed with ⟨creature, known⟩
        rw [same, named, consistent.get_allocate] at known
        cases known
      exact (consistent.mem_handles_congr consistentAfter
        (consistent.get_spawn_of_ne named different)).2 listed
  | _ =>
      exact listed

/-- The handles that carrying out one entry of a program takes from the store,
if the entry means an attack. -/
def slainBy (entry : Codon × Turn σ) : List Handle :=
  if entry.1.meaning? = some .attack then
    entry.2.store.beyond ((carryOut entry.1).apply entry.2).2.store
  else
    []

def bornBy (entry : Codon × Turn σ) : List Handle :=
  ((carryOut entry.1).apply entry.2).2.store.beyond entry.2.store

def slain (turn : Turn σ) : List Handle :=
  turn.genes.flatMap slainBy

def children (turn : Turn σ) : List Handle :=
  turn.genes.flatMap bornBy

theorem Effect.mem_handles_iff (inOrder : turn.InOrder) {codon : Codon}
    (means : codon.meaning? = some gene)
    (applied : (carryOut codon).apply turn = (.ok (), after))
    (effect : Effect turn gene after)
    (old : handle.generation < turn.issued) :
    handle ∈ after.store.handles ↔
      handle ∈ turn.store.handles ∧ handle ∉ slainBy (codon, turn) := by
  rw [slainBy, means, applied]
  by_cases attacks : gene = .attack
  · rw [if_pos (congrArg some attacks), Store.mem_beyond_iff]
    constructor
    · intro listed
      refine ⟨?_, fun lost => lost.2 listed⟩
      rcases effect.known_before inOrder listed with before | new
      · exact before
      · exact absurd old (Nat.not_lt.2 new)
    · intro given
      rcases given with ⟨before, notLost⟩
      by_contra missing
      exact notLost ⟨before, missing⟩
  · have harmless : ¬ some gene = some Gene.attack :=
      fun same => attacks (Option.some.inj same)
    rw [if_neg harmless]
    constructor
    · intro listed
      refine ⟨?_, List.not_mem_nil⟩
      rcases effect.known_before inOrder listed with before | new
      · exact before
      · exact absurd old (Nat.not_lt.2 new)
    · intro given
      rcases given with ⟨before, -⟩
      exact effect.known_after inOrder attacks before

end Genes

/-! ## Turns -/

section Turns

variable [Dice σ]

/-- While a program runs, the handles that were stamped before are lost to
nothing but its attacks. -/
theorem mem_handles_runProgram (inOrder : turn.InOrder)
    (ran : runProgram.apply turn = (.ok (), after))
    (lively : turn.actor.energy ≠ 0)
    (old : handle.generation < turn.issued) :
    handle ∈ after.store.handles ↔
      handle ∈ turn.store.handles ∧ handle ∉ turn.slain := by
  have step : ∀ codon ∈ turn.actor.program, ∀ before,
      turn.Follows before ∧ turn.issued ≤ before.issued →
        (carryOut codon).Succeeds before fun _ later =>
          (turn.Follows later ∧ turn.issued ≤ later.issued) ∧
            (handle ∈ later.store.handles ↔
              handle ∈ before.store.handles ∧
                handle ∉ slainBy (codon, before)) := by
    intro codon member before given
    rcases given with ⟨follows, notBefore⟩
    rcases inOrder.viable.exists_meaning member with ⟨gene, means⟩
    obtain ⟨_, later, applied, effect⟩ :=
      (succeeds_carryOut follows.inOrder means).exists_apply
    refine Act.succeeds_of_apply applied ⟨⟨follows.step effect, ?_⟩, ?_⟩
    · exact Nat.le_trans notBefore effect.issued_le
    · exact effect.mem_handles_iff follows.inOrder means applied
        (Nat.lt_of_lt_of_le old notBefore)
  have ended :=
    Act.succeeds_forM_present
      (fun later => turn.Follows later ∧ turn.issued ≤ later.issued)
      (fun later => handle ∈ later.store.handles)
      ⟨inOrder.follows_self, Nat.le_refl _⟩ step
  rw [slain, genes, if_neg lively]
  rw [Act.Succeeds, ← ends_runProgram inOrder] at ended
  exact (Act.Ends.of_apply ended ran).2

omit [Dice σ] in
/-- The upkeep takes nobody from the store but the actor, who was not in it. -/
theorem Upkeep.get_eq (inOrder : turn.InOrder) {life : Life}
    (upkeep : Upkeep turn life after) (handle : Handle) :
    after.store.get handle = turn.store.get handle := by
  cases upkeep with
  | paid solvent =>
      rfl
  | starved broke =>
      have kept := inOrder.consistent.holds_actor
      by_cases same : handle = turn.actor.handle
      · rw [same, inOrder.consistent.get_actor]
        exact Store.get_release_self kept
      · exact Store.get_release_of_ne kept same

omit [Dice σ] in
theorem Upkeep.mem_handles_iff (inOrder : turn.InOrder) {life : Life}
    (upkeep : Upkeep turn life after) :
    handle ∈ after.store.handles ↔ handle ∈ turn.store.handles := by
  have same := upkeep.get_eq inOrder handle
  cases life with
  | alive =>
      exact inOrder.consistent.mem_handles_congr
        (upkeep.inOrder inOrder).1.consistent same
  | dead =>
      exact inOrder.consistent.mem_handles_congr
        (upkeep.consistent inOrder) same

theorem Played.mem_handles_iff {life : Life} (inOrder : turn.InOrder)
    (played : Played turn life after)
    (old : handle.generation < turn.issued) :
    handle ∈ after.store.handles ↔
      handle ∈ turn.store.handles ∧ handle ∉ turn.slain := by
  cases played with
  | faded spent =>
      rw [slain, genes, if_pos spent]
      simp
  | ended lively ran follows upkeep =>
      rw [upkeep.mem_handles_iff follows.inOrder]
      exact mem_handles_runProgram inOrder ran lively old

theorem Played.issued_le {life : Life} (inOrder : turn.InOrder)
    (played : Played turn life after) : turn.issued ≤ after.issued := by
  cases played with
  | faded spent =>
      exact Nat.le_refl _
  | @ended middle _ _ lively ran follows upkeep =>
      have notBefore : turn.issued ≤ middle.issued :=
        ((succeeds_runProgram_kept
          (fun later => turn.issued ≤ later.issued) inOrder
          (fun _ _ effect same => Nat.le_trans same effect.issued_le)
          (Nat.le_refl _)).of_apply ran).2
      cases upkeep <;> exact notBefore

/-- A child bears a stamp that was not used before. -/
theorem issued_le_of_mem_children (inOrder : turn.InOrder)
    (born : handle ∈ turn.children) :
    turn.issued ≤ handle.generation := by
  rcases List.mem_flatMap.1 born with ⟨entry, member, added⟩
  obtain ⟨listed, follows, notBefore⟩ :=
    kept_of_mem_genes (fun later => turn.issued ≤ later.issued) inOrder
      (fun _ _ effect same => Nat.le_trans same effect.issued_le)
      (Nat.le_refl _) member
  rcases inOrder.viable.exists_meaning listed with ⟨gene, means⟩
  obtain ⟨_, later, applied, effect⟩ :=
    (succeeds_carryOut follows.inOrder means).exists_apply
  rw [bornBy, applied, Store.mem_beyond_iff] at added
  rcases effect.known_before follows.inOrder added.1 with before | new
  · exact absurd before added.2
  · exact Nat.le_trans notBefore new

end Turns

end Turn

end Vivarium
