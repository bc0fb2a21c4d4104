import Vivarium.Proofs.Settled

/-!
# Consistent states

The invariant of a simulation, between turns and within one: the population is
settled, and nobody is checked out of the store but the creature that takes
its turn. Each operation of the store that a turn uses keeps it.
-/

namespace Vivarium

namespace Store

variable {store : Store} {issued : Nat}

/-- A reservation takes the head of the free list, or else a new slot. -/
theorem reserves_allocate (store : Store) (issued : Nat) :
    Roster.Reserves store.free store.count
      (store.allocate issued).1.slot (store.allocate issued).2.1.free
      (store.allocate issued).2.1.count := by
  unfold allocate Roster.Reserves
  cases listed : store.free with
  | nil =>
      exact Or.inr ⟨rfl, rfl, rfl, Array.size_push _⟩
  | cons index rest =>
      exact Or.inl ⟨rfl, rfl⟩

private theorem slot_allocate_lt (store : Store) (issued : Nat)
    (listed : ∀ index ∈ store.free, index < store.count) :
    (store.allocate issued).1.slot < (store.allocate issued).2.1.count := by
  rcases reserves_allocate store issued with
    ⟨popped, sameCount⟩ | ⟨-, -, last, grown⟩
  · rw [sameCount]
    exact listed _ (popped ▸ List.mem_cons_self)
  · rw [last, grown]
    exact Nat.lt_succ_self _

end Store

/-- A world and a store that are in order. At most the given creature is out
of the store, and its slot waits for it. -/
structure Consistent
    (world : World) (store : Store) (issued : Nat)
    (out : Option Creature) : Prop where
  away : ∀ {index handle}, store.slot index = .checkedOut handle ↔
    out.map Creature.handle = some handle ∧ handle.slot = index
  settled :
    Settled world (store.residents out) store.free store.count issued

namespace Consistent

variable {world : World} {store : Store} {issued : Nat}
  {out : Option Creature} {actor creature : Creature}

/-- Stamps that are drawn elsewhere do no harm. -/
theorem mono (consistent : Consistent world store issued out)
    {later : Nat} (notBefore : issued ≤ later) :
    Consistent world store later out where
  away := consistent.away
  settled :=
    { consistent.settled with
      toRoster := consistent.settled.toRoster.mono notBefore }

section Lookup

/-- A stored creature is the resident of its slot, which is not the slot of
the creature that is out. -/
theorem resident_of_slot (consistent : Consistent world store issued out)
    {index : Nat} (stored : store.slot index = .stored creature) :
    store.residents out index = some creature ∧
      ∀ actor ∈ out, actor.handle.slot ≠ index := by
  have elsewhere : ∀ actor ∈ out, actor.handle.slot ≠ index := by
    intro actor isOut same
    cases isOut
    have checkedOut := consistent.away.2 ⟨rfl, same⟩
    rw [stored] at checkedOut
    cases checkedOut
  refine ⟨?_, elsewhere⟩
  cases out with
  | none =>
      exact Store.residents_none_eq_some_iff.2 stored
  | some actor =>
      rw [Store.residents_of_ne (Ne.symm (elsewhere actor rfl)), stored]
      rfl

theorem resident_of_get (consistent : Consistent world store issued out)
    {handle : Handle} (found : store.get handle = some creature) :
    store.residents out handle.slot = some creature ∧
      ∀ actor ∈ out, actor.handle.slot ≠ handle.slot :=
  consistent.resident_of_slot (Store.get_eq_some_iff.1 found).1

theorem get_of_resident (consistent : Consistent world store issued out)
    {index : Nat} (present : store.residents out index = some creature)
    (elsewhere : ∀ actor ∈ out, actor.handle.slot ≠ index) :
    store.get creature.handle = some creature := by
  have named := consistent.settled.slot_eq present
  refine Store.get_eq_some_iff.2 ⟨?_, rfl⟩
  rw [named]
  cases out with
  | none =>
      exact Store.residents_none_eq_some_iff.1 present
  | some actor =>
      rw [Store.residents_of_ne (Ne.symm (elsewhere actor rfl))] at present
      exact Store.creature?_eq_some_iff.1 present

/-- The slot of the creature that is out. -/
theorem slot_actor (consistent : Consistent world store issued (some actor)) :
    store.slot actor.handle.slot = .checkedOut actor.handle :=
  consistent.away.2 ⟨rfl, rfl⟩

theorem holds_actor
    (consistent : Consistent world store issued (some actor)) :
    store.holds actor.handle = true :=
  Store.holds_iff.2 (Or.inr consistent.slot_actor)

theorem get_actor (consistent : Consistent world store issued (some actor)) :
    store.get actor.handle = none := by
  unfold Store.get
  rw [consistent.slot_actor]

theorem actor_present
    (_consistent : Consistent world store issued (some actor)) :
    store.residents (some actor) actor.handle.slot = some actor :=
  Store.residents_self store actor

theorem slot_ne_checkedOut
    (consistent : Consistent world store issued none)
    (index : Nat) (handle : Handle) :
    store.slot index ≠ .checkedOut handle := by
  intro checkedOut
  rcases consistent.away.1 checkedOut with ⟨impossible, -⟩
  cases impossible

theorem isOut_eq_false (consistent : Consistent world store issued none)
    (handle : Handle) : store.isOut handle = false := by
  rw [Bool.eq_false_iff]
  intro isOut
  exact consistent.slot_ne_checkedOut _ _ (Store.isOut_iff.1 isOut)

end Lookup

/-! ## Checking out and in -/

theorem take (consistent : Consistent world store issued none)
    {handle : Handle} (found : store.get handle = some creature) :
    Consistent world (store.take handle).2 issued (some creature) := by
  rcases Store.get_eq_some_iff.1 found with ⟨-, sameHandle⟩
  refine ⟨?_, ?_⟩
  · intro index other
    rw [Store.slot_take found, Option.map_some, sameHandle,
      Option.some.injEq]
    by_cases same : handle.slot = index
    · rw [if_pos same, Slot.checkedOut.injEq]
      constructor
      · intro named
        rw [← named]
        exact ⟨rfl, same⟩
      · intro given
        exact given.1
    · rw [if_neg same]
      constructor
      · intro checkedOut
        exact absurd checkedOut (consistent.slot_ne_checkedOut _ _)
      · intro given
        rw [← given.1] at given
        exact absurd given.2 same
  · rw [Store.residents_take found, Store.free_take, Store.count_take]
    exact consistent.settled

/-- When something is written to the slot of the creature that is out, nobody
is out any more. -/
private theorem away_settle
    (consistent : Consistent world store issued (some actor))
    {after : Store} {held : Slot}
    (written : ∀ index, after.slot index =
      if actor.handle.slot = index then held else store.slot index)
    (inside : ∀ handle, held ≠ .checkedOut handle)
    {index : Nat} {handle : Handle} :
    after.slot index = .checkedOut handle ↔
      (none : Option Creature).map Creature.handle = some handle ∧
        handle.slot = index := by
  constructor
  · intro checkedOut
    rw [written] at checkedOut
    split at checkedOut
    · exact absurd checkedOut (inside handle)
    · next different =>
      rcases consistent.away.1 checkedOut with ⟨named, placed⟩
      rw [← Option.some.inj named] at placed
      exact absurd placed different
  · intro given
    cases given.1

theorem put (consistent : Consistent world store issued (some actor)) :
    Consistent world (store.set actor.handle actor) issued none := by
  have bound : actor.handle.slot < store.count :=
    consistent.settled.bounded consistent.actor_present
  refine ⟨?_, ?_⟩
  · exact consistent.away_settle (Store.slot_set bound actor) (by simp)
  · rw [Store.residents_put bound, Store.count_set]
    exact consistent.settled

/-! ## What a turn does -/

/-- A write of a creature, or of nothing, to a slot other than the actor's
checks nobody out. -/
private theorem away_write (consistent : Consistent world store issued out)
    {after : Store} {index : Nat} {held : Slot}
    (written : ∀ other,
      after.slot other = if index = other then held else store.slot other)
    (inside : ∀ handle, held ≠ .checkedOut handle)
    (elsewhere : ∀ actor ∈ out, actor.handle.slot ≠ index)
    {other : Nat} {handle : Handle} :
    after.slot other = .checkedOut handle ↔
      out.map Creature.handle = some handle ∧ handle.slot = other := by
  rw [written]
  by_cases same : index = other
  · rw [if_pos same]
    constructor
    · intro checkedOut
      exact absurd checkedOut (inside handle)
    · intro given
      rcases given with ⟨named, placed⟩
      rcases Option.map_eq_some_iff.1 named with ⟨actor, isOut, rfl⟩
      exact absurd (placed.trans same.symm) (elsewhere actor isOut)
  · rw [if_neg same]
    exact consistent.away

/-- The actor changes, but neither its name nor its place. -/
theorem reviseActor
    (consistent : Consistent world store issued (some actor))
    {revised : Creature} (sameHandle : revised.handle = actor.handle)
    (samePosition : revised.position = actor.position)
    (viable : revised.Viable) :
    Consistent world store issued (some revised) := by
  refine ⟨?_, ?_⟩
  · intro index handle
    rw [consistent.away, Option.map_some, Option.map_some, sameHandle]
  · rw [Store.residents_revise sameHandle]
    exact consistent.settled.revise consistent.actor_present sameHandle
      samePosition viable

/-- The actor steps onto a free tile. -/
theorem relocateActor
    (consistent : Consistent world store issued (some actor))
    {target : Position} (onGrid : world.contains target = true)
    (unoccupied : world.occupant? target = none) :
    Consistent
      ((world.setOccupant actor.position none).setOccupant target
        (some actor.handle))
      store issued (some { actor with position := target }) := by
  refine ⟨?_, ?_⟩
  · exact consistent.away
  · have sameHandle :
        ({ actor with position := target } : Creature).handle =
          actor.handle := rfl
    rw [Store.residents_revise sameHandle]
    exact consistent.settled.relocate consistent.actor_present onGrid
      unoccupied

theorem feed (consistent : Consistent world store issued out)
    {position : Position} {food : Tile → Int}
    (enough : ∀ {tile}, world.tile? position = some tile → 0 ≤ food tile) :
    Consistent
      (world.update position fun tile => { tile with food := food tile })
      store issued out :=
  ⟨consistent.away, consistent.settled.feed enough⟩

/-- Another creature changes, but neither its name nor its place. -/
theorem reviseStored (consistent : Consistent world store issued out)
    {handle : Handle} (found : store.get handle = some creature)
    {revised : Creature} (sameHandle : revised.handle = creature.handle)
    (samePosition : revised.position = creature.position)
    (viable : revised.Viable) :
    Consistent world (store.set handle revised) issued out := by
  rcases consistent.resident_of_get found with ⟨present, elsewhere⟩
  have bound : handle.slot < store.count :=
    consistent.settled.bounded present
  have written := Store.slot_set bound revised
  refine ⟨?_, ?_⟩
  · exact consistent.away_write written (by simp) elsewhere
  · rw [Store.residents_write written elsewhere, Store.count_set]
    exact consistent.settled.revise present sameHandle samePosition viable

/-- Another creature is killed. -/
theorem kill (consistent : Consistent world store issued out)
    {handle : Handle} (found : store.get handle = some creature) :
    Consistent (world.setOccupant creature.position none)
      (store.release handle).2 issued out := by
  rcases consistent.resident_of_get found with ⟨present, elsewhere⟩
  have kept := Store.holds_of_get found
  have written := Store.slot_release kept
  refine ⟨?_, ?_⟩
  · exact consistent.away_write written (by simp) elsewhere
  · rw [Store.residents_write written elsewhere, Store.free_release kept,
      Store.count_release]
    exact consistent.settled.remove present

/-- The actor is gone for good. -/
theorem removeActor
    (consistent : Consistent world store issued (some actor)) :
    Consistent (world.setOccupant actor.position none)
      (store.release actor.handle).2 issued none := by
  have kept := consistent.holds_actor
  refine ⟨?_, ?_⟩
  · exact consistent.away_settle (Store.slot_release kept) (by simp)
  · rw [Store.residents_release kept, Store.free_release kept,
      Store.count_release]
    exact consistent.settled.remove consistent.actor_present

/-! ## The slot of a newcomer -/

private theorem vacant_allocate
    (consistent : Consistent world store issued out) :
    store.residents out (store.allocate issued).1.slot = none :=
  consistent.settled.vacant_of_reserves
    (Store.reserves_allocate store issued)

private theorem elsewhere_allocate
    (consistent : Consistent world store issued out) :
    ∀ actor ∈ out, actor.handle.slot ≠ (store.allocate issued).1.slot := by
  intro actor isOut same
  have vacant := consistent.vacant_allocate
  cases isOut
  rw [← same, Store.residents_self] at vacant
  cases vacant

theorem lt_count_allocate (consistent : Consistent world store issued out) :
    (store.allocate issued).1.slot < (store.allocate issued).2.1.count :=
  Store.slot_allocate_lt store issued fun index listed =>
    ((consistent.settled.mem_free index).1 listed).1

theorem creature?_allocate (consistent : Consistent world store issued out) :
    (store.slot (store.allocate issued).1.slot).creature? = none := by
  have vacant := consistent.vacant_allocate
  cases out with
  | none =>
      exact vacant
  | some actor =>
      have elsewhere := consistent.elsewhere_allocate actor rfl
      rw [Store.residents_of_ne (Ne.symm elsewhere)] at vacant
      exact vacant

/-- What is stored for a newcomer is seen in its slot and nowhere else. -/
theorem slot_spawn (consistent : Consistent world store issued out)
    (named : creature.handle = (store.allocate issued).1) (index : Nat) :
    ((store.allocate issued).2.1.set creature.handle creature).slot index =
      if creature.handle.slot = index then .stored creature
      else store.slot index := by
  have bound := consistent.lt_count_allocate
  rw [← named] at bound
  rw [Store.slot_set bound, Store.slot_allocate]

/-- The residents that there are, and the newcomer. -/
theorem residents_spawn (consistent : Consistent world store issued out)
    (named : creature.handle = (store.allocate issued).1) :
    ((store.allocate issued).2.1.set creature.handle creature).residents
        out =
      Function.update (store.residents out) creature.handle.slot
        (some creature) := by
  have elsewhere := consistent.elsewhere_allocate
  rw [← named] at elsewhere
  exact Store.residents_write (consistent.slot_spawn named) elsewhere

/-- A newcomer is stored under the next handle and its tile is marked. -/
theorem spawn (consistent : Consistent world store issued out)
    (named : creature.handle = (store.allocate issued).1)
    (onGrid : world.contains creature.position = true)
    (unoccupied : world.occupant? creature.position = none)
    (viable : creature.Viable) :
    Consistent (world.setOccupant creature.position (some creature.handle))
      ((store.allocate issued).2.1.set creature.handle creature)
      (store.allocate issued).2.2 out := by
  have reserves := Store.reserves_allocate store issued
  have elsewhere := consistent.elsewhere_allocate
  have stamp : creature.handle.generation = issued := by
    rw [named, Store.generation_allocate]
  rw [← named] at reserves elsewhere
  refine ⟨?_, ?_⟩
  · exact consistent.away_write (consistent.slot_spawn named) (by simp)
      elsewhere
  · rw [consistent.residents_spawn named, Store.count_set,
      Store.issued_allocate]
    exact consistent.settled.add reserves stamp onGrid unoccupied viable

end Consistent

end Vivarium
