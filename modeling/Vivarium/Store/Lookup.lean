import Vivarium.Store

/-!
# Looking into a store

What each operation of a store does to its slots, and what the look-ups say
about them. Nothing else about a store can be seen from outside but its free
list.
-/

namespace Vivarium

namespace Store

/-! ## Reading -/

theorem slot_eq_vacant {store : Store} {index : Nat}
    (beyond : store.count ≤ index) : store.slot index = .vacant := by
  rw [slot, Array.getD_eq_getD_getElem?, Array.getElem?_eq_none beyond]
  rfl

theorem lt_count {store : Store} {index : Nat}
    (used : store.slot index ≠ .vacant) : index < store.count :=
  Nat.lt_of_not_le fun beyond => used (slot_eq_vacant beyond)

theorem get_eq_some_iff {store : Store} {handle : Handle}
    {creature : Creature} :
    store.get handle = some creature ↔
      store.slot handle.slot = .stored creature ∧
        creature.handle = handle := by
  unfold get
  cases store.slot handle.slot with
  | vacant => simp
  | checkedOut holder => simp
  | stored other =>
    simp only [Slot.stored.injEq]
    constructor
    · intro found
      split at found
      · next same =>
        obtain rfl := Option.some.inj found
        exact ⟨rfl, same⟩
      · cases found
    · rintro ⟨rfl, same⟩
      rw [if_pos same]

theorem isOut_iff {store : Store} {handle : Handle} :
    store.isOut handle = true ↔
      store.slot handle.slot = .checkedOut handle := by
  unfold isOut
  cases store.slot handle.slot <;> simp

theorem holds_iff {store : Store} {handle : Handle} :
    store.holds handle = true ↔
      (∃ creature, store.slot handle.slot = .stored creature ∧
        creature.handle = handle) ∨
      store.slot handle.slot = .checkedOut handle := by
  simp only [holds, Bool.or_eq_true, Option.isSome_iff_exists,
    get_eq_some_iff, isOut_iff]

theorem holds_of_get {store : Store} {handle : Handle}
    {creature : Creature} (found : store.get handle = some creature) :
    store.holds handle = true :=
  holds_iff.2 (Or.inl ⟨creature, get_eq_some_iff.1 found⟩)

theorem lt_count_of_get {store : Store} {handle : Handle}
    {creature : Creature} (found : store.get handle = some creature) :
    handle.slot < store.count := by
  apply lt_count
  rw [(get_eq_some_iff.1 found).1]
  exact Slot.noConfusion

theorem lt_count_of_holds {store : Store} {handle : Handle}
    (kept : store.holds handle = true) : handle.slot < store.count := by
  apply lt_count
  rcases holds_iff.1 kept with ⟨creature, found, -⟩ | found <;>
    rw [found] <;> exact Slot.noConfusion

/-! ## Listing -/

theorem toList_slots (store : Store) :
    store.slots.toList = (List.range store.count).map store.slot := by
  apply List.ext_getElem
  · rw [List.length_map, List.length_range]
    rfl
  · intro index bound _
    have inside : index < store.slots.size := bound
    rw [List.getElem_map, List.getElem_range, slot,
      Array.getD_eq_getD_getElem?, Array.getElem?_eq_getElem inside]
    rfl

/-- Nothing about a store can be seen but its slots and its free list. -/
theorem ext_slot {store after : Store} (sameCount : after.count = store.count)
    (sameSlot : ∀ index, after.slot index = store.slot index)
    (sameFree : after.free = store.free) : after = store := by
  have sameSlots : after.slots = store.slots := by
    apply Array.toList_inj.1
    rw [toList_slots, toList_slots, sameCount, funext sameSlot]
  rcases after with ⟨slots, free⟩
  rw [Store.mk.injEq]
  exact ⟨sameSlots, sameFree⟩

/-- The creatures are read off slot after slot. -/
theorem creatures_eq (store : Store) :
    store.creatures =
      (List.range store.count).filterMap fun index =>
        (store.slot index).creature? := by
  rw [creatures, toList_slots, List.filterMap_map]
  rfl

theorem creature?_eq_some_iff {held : Slot} {creature : Creature} :
    held.creature? = some creature ↔ held = .stored creature := by
  cases held <;> simp [Slot.creature?]

/-- The creatures of a store are those that its slots hold. -/
theorem mem_creatures_iff {store : Store} {creature : Creature} :
    creature ∈ store.creatures ↔
      ∃ index, store.slot index = .stored creature := by
  rw [creatures_eq, List.mem_filterMap]
  constructor
  · rintro ⟨index, -, found⟩
    exact ⟨index, creature?_eq_some_iff.1 found⟩
  · rintro ⟨index, stored⟩
    have bound : index < store.count := by
      apply lt_count
      rw [stored]
      exact Slot.noConfusion
    exact ⟨index, List.mem_range.2 bound, creature?_eq_some_iff.2 stored⟩

/-- Every stored creature lies in the slot that its handle leads to. -/
def Placed (store : Store) : Prop :=
  ∀ {index : Nat} {creature : Creature},
    store.slot index = .stored creature → creature.handle.slot = index

/-- A handle is on the list just if it leads to a creature. -/
theorem mem_handles_iff {store : Store} (placed : store.Placed)
    {handle : Handle} :
    handle ∈ store.handles ↔
      ∃ creature, store.get handle = some creature := by
  rw [handles, List.mem_map]
  constructor
  · rintro ⟨creature, listed, rfl⟩
    rcases mem_creatures_iff.1 listed with ⟨index, stored⟩
    refine ⟨creature, get_eq_some_iff.2 ⟨?_, rfl⟩⟩
    rw [placed stored]
    exact stored
  · rintro ⟨creature, found⟩
    rcases get_eq_some_iff.1 found with ⟨stored, named⟩
    exact ⟨creature, mem_creatures_iff.2 ⟨_, stored⟩, named⟩

/-- The handles stand in the order of their slots. -/
theorem pairwise_handles {store : Store} (placed : store.Placed) :
    store.handles.Pairwise fun left right => left.slot < right.slot := by
  rw [handles, creatures_eq, List.pairwise_map]
  refine List.Pairwise.filterMap _ ?_ List.pairwise_lt_range
  intro left right ascending first firstPresent second secondPresent
  rw [placed (creature?_eq_some_iff.1 firstPresent),
    placed (creature?_eq_some_iff.1 secondPresent)]
  exact ascending

theorem nodup_handles {store : Store} (placed : store.Placed) :
    store.handles.Nodup := by
  refine (pairwise_handles placed).imp ?_
  intro left right ascending same
  subst same
  exact Nat.lt_irrefl _ ascending

/-! ## Writing -/

/-- What a write to one slot does to the others, and to itself. -/
theorem slot_setIfInBounds {store : Store} {index other : Nat} {held : Slot}
    {free : List Nat} (bound : index < store.count) :
    slot ⟨store.slots.setIfInBounds index held, free⟩ other =
      if index = other then held else store.slot other := by
  simp only [slot, Array.getD_eq_getD_getElem?, Array.getElem?_setIfInBounds]
  split
  · next same =>
    subst same
    have inside : index < store.slots.size := bound
    rw [if_pos inside]
    rfl
  · rfl

theorem count_set (store : Store) (handle : Handle) (creature : Creature) :
    (store.set handle creature).count = store.count :=
  Array.size_setIfInBounds

theorem slot_set {store : Store} {handle : Handle}
    (bound : handle.slot < store.count) (creature : Creature) (index : Nat) :
    (store.set handle creature).slot index =
      if handle.slot = index then .stored creature else store.slot index :=
  slot_setIfInBounds bound

/-- A slot that does not exist takes no creature. -/
theorem set_eq_self {store : Store} {handle : Handle}
    (beyond : store.count ≤ handle.slot) (creature : Creature) :
    store.set handle creature = store := by
  have outside : ¬ handle.slot < store.slots.size := Nat.not_lt.2 beyond
  rw [set, Array.setIfInBounds, dif_neg outside]

theorem take_eq_of_none {store : Store} {handle : Handle}
    (missing : store.get handle = none) :
    store.take handle = (none, store) := by
  simp only [take, missing]

theorem fst_take (store : Store) (handle : Handle) :
    (store.take handle).1 = store.get handle := by
  unfold take
  split <;> simp [*]

theorem free_take (store : Store) (handle : Handle) :
    (store.take handle).2.free = store.free := by
  unfold take
  split <;> rfl

theorem count_take (store : Store) (handle : Handle) :
    (store.take handle).2.count = store.count := by
  unfold take
  split
  · exact Array.size_setIfInBounds
  · rfl

theorem slot_take {store : Store} {handle : Handle} {creature : Creature}
    (found : store.get handle = some creature) (index : Nat) :
    (store.take handle).2.slot index =
      if handle.slot = index then .checkedOut handle
      else store.slot index := by
  simp only [take, found]
  exact slot_setIfInBounds (lt_count_of_get found)

theorem release_eq_of_not_holds {store : Store} {handle : Handle}
    (lost : store.holds handle = false) :
    store.release handle = (false, store) := by
  simp [release, lost]

theorem fst_release (store : Store) (handle : Handle) :
    (store.release handle).1 = store.holds handle := by
  unfold release
  split <;> simp_all

theorem free_release {store : Store} {handle : Handle}
    (kept : store.holds handle = true) :
    (store.release handle).2.free = handle.slot :: store.free := by
  simp [release, kept]

theorem count_release (store : Store) (handle : Handle) :
    (store.release handle).2.count = store.count := by
  unfold release
  split
  · exact Array.size_setIfInBounds
  · rfl

theorem slot_release {store : Store} {handle : Handle}
    (kept : store.holds handle = true) (index : Nat) :
    (store.release handle).2.slot index =
      if handle.slot = index then .vacant else store.slot index := by
  simp only [release, kept, if_true]
  exact slot_setIfInBounds (lt_count_of_holds kept)

/-! ### Releases for a host -/

theorem snd_deallocate (store : Store) (issued : Nat) (handle : Handle) :
    (store.deallocate issued handle).2 = (store.release handle).2 :=
  rfl

/-- Either the handle is answered, or its stamp was never drawn and cannot be
written. -/
theorem fst_deallocate (store : Store) (issued : Nat) (handle : Handle) :
    (store.deallocate issued handle).1 =
      if store.holds handle = false ∧ handle.slot < store.count ∧
          handle.isWritable issued = false then .error .longFigure
      else .ok (store.holds handle) := by
  unfold deallocate
  dsimp only
  rw [fst_release]
  by_cases inside : handle.slot < store.count
  · cases store.holds handle <;> cases handle.isWritable issued <;>
      simp [inside, Nat.not_le.2 inside]
  · simp [inside, Nat.not_lt.1 inside]

theorem fst_deallocate_of_writable {store : Store} {issued : Nat}
    {handle : Handle} (writable : handle.isWritable issued = true) :
    (store.deallocate issued handle).1 = .ok (store.holds handle) := by
  rw [fst_deallocate, writable]
  simp

theorem deallocate_eq_of_not_holds {store : Store} {issued : Nat}
    {handle : Handle} (lost : store.holds handle = false)
    (writable : handle.isWritable issued = true) :
    store.deallocate issued handle = (.ok false, store) := by
  refine Prod.ext ?_ ?_
  · rw [fst_deallocate_of_writable writable, lost]
  · rw [snd_deallocate, release_eq_of_not_holds lost]

theorem fst_deallocate_eq_true_iff {store : Store} {issued : Nat}
    {handle : Handle} :
    (store.deallocate issued handle).1 = .ok true ↔
      store.holds handle = true := by
  rw [fst_deallocate]
  cases store.holds handle with
  | true => simp
  | false => split <;> simp

/-- A reservation changes no slot: the one that is added is vacant. -/
theorem slot_allocate (store : Store) (issued index : Nat) :
    (store.allocate issued).2.1.slot index = store.slot index := by
  unfold allocate
  split
  · rfl
  · simp only [slot, Array.getD_eq_getD_getElem?, Array.getElem?_push]
    split
    · next last =>
      subst last
      simp
    · rfl

theorem generation_allocate (store : Store) (issued : Nat) :
    (store.allocate issued).1.generation = issued := by
  unfold allocate
  split <;> rfl

theorem issued_allocate (store : Store) (issued : Nat) :
    (store.allocate issued).2.2 = issued + 1 := by
  unfold allocate
  split <;> rfl

/-! ## Reading what was written -/

section Written

variable {store : Store} {handle other : Handle}

theorem get_set (bound : handle.slot < store.count) {creature : Creature}
    (named : creature.handle = handle) :
    (store.set handle creature).get handle = some creature := by
  rw [get_eq_some_iff, slot_set bound, if_pos rfl]
  exact ⟨rfl, named⟩

theorem set_set (store : Store) (handle : Handle)
    (first second : Creature) :
    (store.set handle first).set handle second = store.set handle second := by
  simp only [set, Array.setIfInBounds_setIfInBounds]

/-- A write to the slot that a handle holds, of a creature with that handle or
of none, is not noticed under any other handle. -/
private theorem get_write_of_ne {after : Store} {held : Slot}
    (kept : store.holds handle = true)
    (written : ∀ index, after.slot index =
      if handle.slot = index then held else store.slot index)
    (answers : ∀ creature, held = .stored creature →
      creature.handle = handle)
    (different : other ≠ handle) : after.get other = store.get other := by
  by_cases sameSlot : handle.slot = other.slot
  · have before : store.get other = none := by
      rw [Option.eq_none_iff_forall_ne_some]
      intro creature known
      rcases get_eq_some_iff.1 known with ⟨stored, named⟩
      rw [← sameSlot] at stored
      rcases holds_iff.1 kept with ⟨holder, held, rfl⟩ | held
      · rw [stored, Slot.stored.injEq] at held
        rw [← held] at different
        exact different named.symm
      · rw [stored] at held
        cases held
    have later : after.get other = none := by
      rw [Option.eq_none_iff_forall_ne_some]
      intro creature known
      rcases get_eq_some_iff.1 known with ⟨stored, named⟩
      rw [written, if_pos sameSlot] at stored
      exact different (named.symm.trans (answers creature stored))
    rw [before, later]
  · unfold get
    rw [written, if_neg sameSlot]

theorem get_release_of_ne (kept : store.holds handle = true)
    (different : other ≠ handle) :
    (store.release handle).2.get other = store.get other :=
  get_write_of_ne kept (slot_release kept) nofun different

theorem get_release_self (kept : store.holds handle = true) :
    (store.release handle).2.get handle = none := by
  unfold get
  rw [slot_release kept, if_pos rfl]

theorem get_set_of_ne (kept : store.holds handle = true)
    {creature : Creature} (named : creature.handle = handle)
    (different : other ≠ handle) :
    (store.set handle creature).get other = store.get other := by
  refine get_write_of_ne kept (slot_set (lt_count_of_holds kept) creature)
    ?_ different
  intro stored same
  cases same
  exact named

theorem get_take_of_ne {creature : Creature}
    (found : store.get handle = some creature) (different : other ≠ handle) :
    (store.take handle).2.get other = store.get other := by
  have kept := holds_of_get found
  exact get_write_of_ne kept (slot_take found) nofun different

end Written

end Store

end Vivarium
