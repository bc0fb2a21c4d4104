import Vivarium.Proofs.Consistent
import Vivarium.Proofs.Register

/-!
# Stores and registers

The books of a store are right when every slot means the entry under the handle
that has it, and when the slots that nobody has or waits for are those on the
free list. Every call that is in order keeps them right, and is answered by
the store as by its register.
-/

namespace Vivarium

/-- The books of a store are right. -/
structure Mirrors (register : Register) (store : Store) : Prop where
  lookup_eq : ∀ handle,
    register.entries.lookup handle =
      (store.slot handle.slot).record? handle
  slot_eq : ∀ {index owner},
    (store.slot index).owner? = some owner → owner.slot = index
  waiting : ∀ {handle}, handle ∈ register.reserved →
    handle.slot < store.count ∧ store.slot handle.slot = .vacant
  alone : ∀ {left right}, left ∈ register.reserved →
    right ∈ register.reserved → left.slot = right.slot → left = right
  nodup : store.free.Nodup
  mem_free : ∀ index, index ∈ store.free ↔
    index < store.count ∧ store.slot index = .vacant ∧
      ∀ handle ∈ register.reserved, handle.slot ≠ index
  reach_eq : register.reach = store.count

namespace Mirrors

variable {register : Register} {store after : Store} {issued : Nat}
  {handle : Handle} {creature : Creature}

theorem empty : Mirrors .empty .empty where
  lookup_eq _ := rfl
  slot_eq owned := by cases owned
  waiting member := by cases member
  alone member := by cases member
  nodup := List.nodup_nil
  mem_free index := by
    simp [Store.empty, Store.count]
  reach_eq := rfl

theorem creature?_eq (mirrors : Mirrors register store)
    (handle : Handle) : register.creature? handle = store.get handle := by
  ext creature
  rw [Register.creature?_eq_some_iff, mirrors.lookup_eq,
    Slot.record?_eq_stored_iff, Store.get_eq_some_iff]

private theorem decide_out (mirrors : Mirrors register store)
    (handle : Handle) :
    decide (register.entries.lookup handle = some .out) =
      store.isOut handle := by
  rw [Bool.eq_iff_iff, decide_eq_true_iff, mirrors.lookup_eq,
    Slot.record?_eq_out_iff, Store.isOut_iff]

theorem mem_iff (mirrors : Mirrors register store) :
    handle ∈ register.entries ↔ store.holds handle = true := by
  rw [← Finmap.lookup_isSome, mirrors.lookup_eq,
    Slot.isSome_record?_iff, Store.holds_iff_owner]

/-! ## Listing -/

theorem placed (mirrors : Mirrors register store) : store.Placed := by
  intro index creature stored
  apply mirrors.slot_eq
  rw [stored]
  rfl

private theorem stored_eq (mirrors : Mirrors register store) :
    register.stored = store.handles.toFinset := by
  ext handle
  simp only [Register.mem_stored_iff, mirrors.creature?_eq,
    List.mem_toFinset, Store.mem_handles_iff mirrors.placed]

private theorem sort_stored (mirrors : Mirrors register store) :
    register.stored.sort = store.handles := by
  have nodup := Store.nodup_handles mirrors.placed
  have ordered : store.handles.Pairwise (· ≤ ·) := by
    refine (Store.pairwise_handles mirrors.placed).imp ?_
    intro left right ascending
    exact Handle.le_iff_slot.2 (Or.inl ascending)
  rw [mirrors.stored_eq]
  exact (List.toFinset_sort (· ≤ ·) nodup).2 ordered

private theorem card_stored (mirrors : Mirrors register store) :
    register.stored.card = store.liveCount := by
  have nodup := Store.nodup_handles mirrors.placed
  rw [mirrors.stored_eq, List.toFinset_card_of_nodup nodup,
    Store.handles, List.length_map]
  rfl

/-! ## Writing -/

section Tenant

variable (mirrors : Mirrors register store)
  (known : register.Knows handle)
include mirrors known

theorem lt_count : handle.slot < store.count := by
  rcases known with reserved | entered
  · exact (mirrors.waiting reserved).1
  · exact Store.lt_count_of_holds (mirrors.mem_iff.1 entered)

private theorem not_mem_free : handle.slot ∉ store.free := by
  rw [mirrors.mem_free]
  rintro ⟨-, vacant, unreserved⟩
  rcases known with reserved | entered
  · exact unreserved handle reserved rfl
  · have owned := Store.holds_iff_owner.1 (mirrors.mem_iff.1 entered)
    rw [vacant] at owned
    cases owned

theorem owner_eq {owner : Handle}
    (owned : (store.slot handle.slot).owner? = some owner) :
    owner = handle := by
  rcases known with reserved | entered
  · rw [(mirrors.waiting reserved).2] at owned
    cases owned
  · have own := Store.holds_iff_owner.1 (mirrors.mem_iff.1 entered)
    rw [owned] at own
    exact Option.some.inj own

theorem waiting_eq {other : Handle} (reserved : other ∈ register.reserved)
    (sameSlot : other.slot = handle.slot) : other = handle := by
  rcases known with alsoReserved | entered
  · exact mirrors.alone reserved alsoReserved sameSlot
  · have owned := Store.holds_iff_owner.1 (mirrors.mem_iff.1 entered)
    rw [← sameSlot, (mirrors.waiting reserved).2] at owned
    cases owned

/-- What is written to the slot means something under the one handle only. -/
private theorem record?_written {held : Slot}
    (own : ∀ owner, held.owner? = some owner → owner = handle)
    (other : Handle) :
    (if handle.slot = other.slot then held
      else store.slot other.slot).record? other =
      if other = handle then held.record? handle
      else register.entries.lookup other := by
  by_cases same : other = handle
  · rw [if_pos same, same, if_pos rfl]
  · rw [if_neg same, mirrors.lookup_eq]
    -- another handle of the same slot meant nothing, and still does
    by_cases sameSlot : handle.slot = other.slot
    · have before : (store.slot other.slot).owner? ≠ some other := by
        intro owned
        rw [← sameSlot] at owned
        exact same (mirrors.owner_eq known owned)
      have now : held.owner? ≠ some other :=
        fun owned => same (own other owned)
      rw [if_pos sameSlot, Slot.record?_eq_none_of_owner? before,
        Slot.record?_eq_none_of_owner? now]
    · rw [if_neg sameSlot]

/-- Nobody else waits for the slot, and whoever waits for another one still
does. -/
private theorem unreserved_erase_iff (index : Nat) :
    (∀ other ∈ register.reserved.erase handle, other.slot ≠ index) ↔
      handle.slot = index ∨
        ∀ other ∈ register.reserved, other.slot ≠ index := by
  constructor
  · intro given
    refine or_iff_not_imp_left.2 ?_
    intro elsewhere other reserved
    by_cases same : other = handle
    · rw [same]
      exact elsewhere
    · exact given other (Finset.mem_erase.2 ⟨same, reserved⟩)
  · rintro (rfl | given) other reserved
    · rcases Finset.mem_erase.1 reserved with ⟨different, reserved⟩
      exact fun sameSlot =>
        different (mirrors.waiting_eq known reserved sameSlot)
    · exact given other (Finset.mem_of_mem_erase reserved)

/-- The slot itself is on the list just if it is given up; elsewhere neither
the list nor those who wait have changed. -/
private theorem mem_free_written (held : Slot) (index : Nat) :
    (index ∈
        if held = .vacant then handle.slot :: store.free
        else store.free) ↔
      index < store.count ∧
        (if handle.slot = index then held
          else store.slot index) = .vacant ∧
        ∀ other ∈ register.reserved.erase handle, other.slot ≠ index := by
  have unlisted := mirrors.not_mem_free known
  have bound := mirrors.lt_count known
  rw [mirrors.unreserved_erase_iff known]
  by_cases here : handle.slot = index
  · subst here
    by_cases vacant : held = .vacant
    · simp [vacant, bound]
    · simp [vacant, unlisted]
  · rw [if_neg here, or_iff_right here, ← mirrors.mem_free]
    split
    · simp [Ne.symm here]
    · rfl

/-- One slot is written under the handle that has it or waits for it. -/
theorem write (held : Slot)
    (own : ∀ owner, held.owner? = some owner → owner = handle)
    {revised : Register}
    (lookup : ∀ other, revised.entries.lookup other =
      if other = handle then held.record? handle
      else register.entries.lookup other)
    (taken : revised.reserved = register.reserved.erase handle)
    (sameReach : revised.reach = register.reach)
    (sameCount : after.count = store.count)
    (written : ∀ index, after.slot index =
      if handle.slot = index then held else store.slot index)
    (free : after.free =
      if held = .vacant then handle.slot :: store.free else store.free) :
    Mirrors revised after where
  lookup_eq other := by
    rw [lookup, written]
    exact (mirrors.record?_written known own other).symm
  slot_eq {index owner} owned := by
    rw [written] at owned
    split at owned
    · next here =>
      rw [own owner owned]
      exact here
    · exact mirrors.slot_eq owned
  waiting {other} reserved := by
    rw [taken, Finset.mem_erase] at reserved
    rcases reserved with ⟨different, reserved⟩
    have elsewhere : handle.slot ≠ other.slot := fun sameSlot =>
      different (mirrors.waiting_eq known reserved sameSlot.symm)
    rw [sameCount, written, if_neg elsewhere]
    exact mirrors.waiting reserved
  alone {left right} leftReserved rightReserved := by
    rw [taken] at leftReserved rightReserved
    exact mirrors.alone (Finset.mem_of_mem_erase leftReserved)
      (Finset.mem_of_mem_erase rightReserved)
  nodup := by
    rw [free]
    split
    · exact List.nodup_cons.2
        ⟨mirrors.not_mem_free known, mirrors.nodup⟩
    · exact mirrors.nodup
  mem_free index := by
    rw [free, sameCount, written, taken]
    exact mirrors.mem_free_written known held index
  reach_eq := by
    rw [sameReach, sameCount, mirrors.reach_eq]

/-- The handle gets an entry, and its slot what means that entry. -/
theorem enter (held : Slot) {entry : Entry}
    (meaning : held.record? handle = some entry)
    (sameCount : after.count = store.count)
    (written : ∀ index, after.slot index =
      if handle.slot = index then held else store.slot index)
    (free : after.free = store.free) :
    Mirrors (register.enter handle entry) after := by
  have owned : held.owner? = some handle := by
    rw [← Slot.isSome_record?_iff, meaning]
    rfl
  refine mirrors.write known held ?_ ?_ rfl rfl sameCount written ?_
  · intro owner other
    rw [owned] at other
    exact (Option.some.inj other).symm
  · intro other
    rw [meaning]
    exact register.lookup_enter handle other entry
  · have used : held ≠ .vacant := by
      intro vacant
      rw [vacant] at owned
      cases owned
    rw [if_neg used]
    exact free

end Tenant

/-! ## Calls -/

theorem vacant_next (mirrors : Mirrors register store) (issued : Nat) :
    store.slot (store.nextHandle issued).slot = .vacant ∧
      ∀ handle ∈ register.reserved,
        handle.slot ≠ (store.nextHandle issued).slot := by
  rcases Store.reserves_allocate store issued with
    ⟨popped, -⟩ | ⟨-, -, last, -⟩
  · have listed : (store.nextHandle issued).slot ∈ store.free := by
      rw [popped]
      exact List.mem_cons_self
    exact ((mirrors.mem_free _).1 listed).2
  · have last : (store.nextHandle issued).slot = store.count := last
    rw [last]
    refine ⟨Store.slot_eq_vacant (Nat.le_refl _), ?_⟩
    intro handle reserved
    exact Nat.ne_of_lt (mirrors.waiting reserved).1

theorem count_reserve (mirrors : Mirrors register store) (issued : Nat) :
    (store.nextHandle issued).slot ≤ store.count ∧
      (store.reserve issued).count =
        max store.count ((store.nextHandle issued).slot + 1) := by
  rcases Store.reserves_allocate store issued with
    ⟨popped, sameCount⟩ | ⟨-, -, last, grown⟩
  · have listed : (store.nextHandle issued).slot ∈ store.free := by
      rw [popped]
      exact List.mem_cons_self
    have bound := ((mirrors.mem_free _).1 listed).1
    have sameCount : (store.reserve issued).count = store.count := sameCount
    omega
  · have last : (store.nextHandle issued).slot = store.count := last
    have grown : (store.reserve issued).count = store.count + 1 := grown
    omega

theorem lt_count_reserve_iff (mirrors : Mirrors register store)
    (issued index : Nat) :
    index < (store.reserve issued).count ↔
      index < store.count ∨ index = (store.nextHandle issued).slot := by
  obtain ⟨bound, grown⟩ := mirrors.count_reserve issued
  omega

theorem free_reserve (mirrors : Mirrors register store) (issued : Nat) :
    (store.reserve issued).free.Nodup ∧
      ∀ index, index ∈ (store.reserve issued).free ↔
        index ∈ store.free ∧ index ≠ (store.nextHandle issued).slot := by
  rcases Store.reserves_allocate store issued with
    ⟨popped, -⟩ | ⟨exhausted, noRest, -, -⟩
  · have nodup := mirrors.nodup
    rw [popped] at nodup ⊢
    rcases List.nodup_cons.1 nodup with ⟨absent, nodup⟩
    refine ⟨nodup, fun index => ?_⟩
    rw [List.mem_cons]
    constructor
    · intro member
      refine ⟨Or.inr member, ?_⟩
      rintro rfl
      exact absent member
    · rintro ⟨same | member, different⟩
      · exact absurd same different
      · exact member
  · have noRest : (store.reserve issued).free = [] := noRest
    rw [exhausted, noRest]
    simp

theorem reserve (mirrors : Mirrors register store) (issued : Nat) :
    Mirrors (register.reserve (store.nextHandle issued))
      (store.reserve issued) := by
  have sameSlot : ∀ index,
      (store.reserve issued).slot index = store.slot index :=
    Store.slot_allocate store issued
  have inRange := mirrors.lt_count_reserve_iff issued
  rcases mirrors.vacant_next issued with ⟨vacant, fresh⟩
  rcases mirrors.free_reserve issued with ⟨nodup, listed⟩
  refine ⟨?_, ?_, ?_, ?_, nodup, ?_, ?_⟩
  · intro handle
    rw [sameSlot]
    exact mirrors.lookup_eq handle
  · intro index owner owned
    rw [sameSlot] at owned
    exact mirrors.slot_eq owned
  · intro handle reserved
    rw [inRange, sameSlot]
    rcases Finset.mem_insert.1 reserved with same | reserved
    · rw [same]
      exact ⟨Or.inr rfl, vacant⟩
    · rcases mirrors.waiting reserved with ⟨bound, waiting⟩
      exact ⟨Or.inl bound, waiting⟩
  · intro left right leftReserved rightReserved sameSlot
    rcases Finset.mem_insert.1 leftReserved with leftNew | leftOld <;>
      rcases Finset.mem_insert.1 rightReserved with rightNew | rightOld
    · rw [leftNew, rightNew]
    · rw [leftNew] at sameSlot
      exact absurd sameSlot.symm (fresh right rightOld)
    · rw [rightNew] at sameSlot
      exact absurd sameSlot (fresh left leftOld)
    · exact mirrors.alone leftOld rightOld sameSlot
  · intro index
    rw [listed, mirrors.mem_free, inRange, sameSlot, Register.reserve,
      Finset.forall_mem_insert]
    constructor
    · rintro ⟨⟨bound, waiting, unreserved⟩, different⟩
      exact ⟨Or.inl bound, waiting, Ne.symm different, unreserved⟩
    · rintro ⟨bound | same, waiting, different, unreserved⟩
      · exact ⟨⟨bound, waiting, unreserved⟩, Ne.symm different⟩
      · exact absurd same.symm different
  · rw [Register.reserve, mirrors.reach_eq, (mirrors.count_reserve issued).2]

theorem put (mirrors : Mirrors register store)
    (known : register.Knows handle) (named : creature.handle = handle) :
    Mirrors (register.enter handle (.stored creature))
      (store.set handle creature) :=
  mirrors.enter known (.stored creature)
    (Slot.record?_eq_stored_iff.2 ⟨rfl, named⟩)
    (Store.count_set store handle creature)
    (Store.slot_set (mirrors.lt_count known) creature) rfl

theorem take (mirrors : Mirrors register store)
    (found : store.get handle = some creature) :
    Mirrors (register.enter handle .out) (store.take handle).2 :=
  mirrors.enter (Or.inr (mirrors.mem_iff.2 (Store.holds_of_get found)))
    (.checkedOut handle) (Slot.record?_eq_out_iff.2 rfl)
    (Store.count_take store handle) (Store.slot_take found)
    (Store.free_take store handle)

theorem release (mirrors : Mirrors register store)
    (held : store.holds handle = true) :
    Mirrors (register.remove handle) (store.release handle).2 := by
  have owned := Store.holds_iff_owner.1 held
  have unreserved : handle ∉ register.reserved := by
    intro reserved
    rw [(mirrors.waiting reserved).2] at owned
    cases owned
  refine mirrors.write (Or.inr (mirrors.mem_iff.2 held)) .vacant nofun
    (register.lookup_remove handle)
    (Finset.erase_eq_of_notMem unreserved).symm rfl
    (Store.count_release store handle) (Store.slot_release held) ?_
  rw [if_pos rfl]
  exact Store.free_release held

/-- What a store answers is what its register answers. -/
theorem perform (mirrors : Mirrors register store) (issued : Nat)
    {operation : Operation} (admitted : register.Admits operation) :
    (store.perform issued operation).1 =
        (register.perform issued (store.nextHandle issued) operation).1 ∧
      Mirrors (register.perform issued (store.nextHandle issued) operation).2
        (store.perform issued operation).2.1 := by
  cases operation with
  | allocate =>
      rw [Store.perform_allocate]
      exact ⟨rfl, mirrors.reserve issued⟩
  | addCreature position program =>
      cases born :
          Creature.newborn (store.nextHandle issued) position program with
      | ok creature =>
          rw [Store.perform_addCreature_of_ok born]
          simp only [Register.perform, born, true_and]
          have reserved := mirrors.reserve issued
          have known : (register.reserve (store.nextHandle issued)).Knows
              (store.nextHandle issued) :=
            Or.inl (Finset.mem_insert_self _ _)
          exact reserved.put known (Creature.handle_of_newborn born)
      | error fault =>
          rw [Store.perform_addCreature_of_error born]
          simp only [Register.perform, born, true_and]
          exact mirrors.reserve issued
  | set handle creature =>
      rcases admitted with ⟨named, expected⟩
      have known : register.Knows handle := by
        refine expected.imp_right ?_
        intro out
        rw [← Finmap.lookup_isSome, out]
        rfl
      exact ⟨rfl, mirrors.put known named⟩
  | take handle =>
      simp only [Register.perform, Store.perform, mirrors.creature?_eq,
        Store.fst_take]
      cases found : store.get handle with
      | none =>
          rw [Store.take_eq_of_none found]
          exact ⟨rfl, mirrors⟩
      | some creature =>
          exact ⟨rfl, mirrors.take found⟩
  | deallocate handle =>
      simp only [Register.perform, Store.perform, mirrors.mem_iff,
        mirrors.reach_eq, Store.fst_deallocate, Store.snd_deallocate]
      cases held : store.holds handle with
      | false =>
          rw [Store.release_eq_of_not_holds held]
          by_cases untold :
              handle.slot < store.count ∧ handle.isWritable issued = false
          · simp [untold, Answer.ofVerdict, mirrors]
          · simp [untold, Answer.ofVerdict, mirrors]
      | true =>
          exact ⟨rfl, mirrors.release held⟩
  | get handle =>
      refine ⟨?_, mirrors⟩
      exact congrArg Answer.found (mirrors.creature?_eq handle).symm
  | modify handle change =>
      simp only [Register.perform, Store.perform, mirrors.creature?_eq,
        Store.modify]
      cases found : store.get handle with
      | none =>
          exact ⟨rfl, mirrors⟩
      | some creature =>
          have known : register.Knows handle :=
            Or.inr (mirrors.mem_iff.2 (Store.holds_of_get found))
          have named : (change creature).handle = handle := by
            rw [admitted creature]
            exact (Store.get_eq_some_iff.1 found).2
          exact ⟨rfl, mirrors.put known named⟩
  | isOut handle =>
      refine ⟨?_, mirrors⟩
      exact congrArg Answer.verdict (mirrors.decide_out handle).symm
  | handles =>
      refine ⟨?_, mirrors⟩
      exact congrArg Answer.listed mirrors.sort_stored.symm
  | liveCount =>
      refine ⟨?_, mirrors⟩
      exact congrArg Answer.counted mirrors.card_stored.symm

end Mirrors

/-- What a listing says comes in the order of the slots. -/
theorem Mirrors.pairwise_listed {register : Register} {store : Store}
    (mirrors : Mirrors register store) {issued : Nat}
    {operation : Operation} {handles : List Handle}
    (answered : (store.perform issued operation).1 = .listed handles) :
    handles.Pairwise fun left right => left.slot < right.slot := by
  cases operation with
  | handles =>
      cases answered
      exact Store.pairwise_handles mirrors.placed
  | addCreature position program =>
      cases born :
          Creature.newborn (store.nextHandle issued) position program with
      | ok creature =>
          rw [Store.perform_addCreature_of_ok born] at answered
          cases answered
      | error fault =>
          rw [Store.perform_addCreature_of_error born] at answered
          cases answered
  | deallocate handle =>
      simp only [Store.perform, Store.fst_deallocate] at answered
      split at answered <;> cases answered
  | _ =>
      cases answered

end Vivarium
