import Vivarium.Proofs.Operations

/-!
# Released handles

A handle that was released never leads to a creature again, whatever is done
with the store afterwards. Slots are overwritten without a check, so the
callers can do much harm; but every slot tells the handle that it is held by,
and later allocations draw other stamps. Only the caller who writes a creature
with the released handle itself can bring it back.
-/

namespace Vivarium

namespace Operation

def Spares (handle : Handle) : Operation → Prop
  | set _ creature => creature.handle ≠ handle
  | modify _ change => ∀ creature : Creature,
    creature.handle ≠ handle → (change creature).handle ≠ handle
  | _ => True

end Operation

namespace Store

variable {store : Store} {issued : Nat} {handle named : Handle}
  {creature : Creature}

private theorem holds_of_slot_eq {after : Store}
    (same : after.slot handle.slot = store.slot handle.slot) :
    after.holds handle = store.holds handle := by
  rw [Bool.eq_iff_iff, holds_iff_owner, holds_iff_owner, same]

/-- A write lets go whoever is not the new owner. -/
private theorem not_holds_of_write (lost : store.holds handle = false)
    {after : Store} {index : Nat} {held : Slot}
    (written : ∀ other,
      after.slot other = if index = other then held else store.slot other)
    (stranger : held.owner? ≠ some handle) :
    after.holds handle = false := by
  by_cases here : index = handle.slot
  · rw [holds_eq_false_iff, written, if_pos here]
    exact stranger
  · rw [holds_of_slot_eq, lost]
    rw [written, if_neg here]

private theorem not_holds_reserve (lost : store.holds handle = false) :
    (store.reserve issued).holds handle = false := by
  have same := slot_allocate store issued handle.slot
  rw [← lost]
  exact holds_of_slot_eq same

private theorem not_holds_set (lost : store.holds handle = false)
    (stranger : creature.handle ≠ handle) :
    (store.set named creature).holds handle = false := by
  by_cases bound : named.slot < store.count
  · refine not_holds_of_write lost (slot_set bound creature) ?_
    intro same
    exact stranger (Option.some.inj same)
  · rw [set_eq_self (Nat.not_lt.1 bound)]
    exact lost

private theorem not_holds_take (lost : store.holds handle = false) :
    (store.take named).2.holds handle = false := by
  cases found : store.get named with
  | none =>
      rw [take_eq_of_none found]
      exact lost
  | some creature =>
      refine not_holds_of_write lost (slot_take found) ?_
      intro same
      have kept := holds_of_get found
      rw [Option.some.inj same, lost] at kept
      cases kept

private theorem not_holds_release (lost : store.holds handle = false) :
    (store.release named).2.holds handle = false := by
  cases kept : store.holds named with
  | false =>
      rw [release_eq_of_not_holds kept]
      exact lost
  | true =>
      exact not_holds_of_write lost (slot_release kept) nofun

private theorem not_holds_modify (lost : store.holds handle = false)
    {change : Creature → Creature}
    (spared : ∀ creature : Creature,
      creature.handle ≠ handle → (change creature).handle ≠ handle) :
    (store.modify named change).holds handle = false := by
  unfold modify
  split
  · next creature found =>
    refine not_holds_set lost (spared creature ?_)
    intro same
    have kept := holds_of_get found
    rw [← (get_eq_some_iff.1 found).2, same, lost] at kept
    cases kept
  · exact lost

/-- A handle that no slot is held by stays so with every call that spares
it, if its stamp was drawn before. -/
theorem not_holds_perform (lost : store.holds handle = false)
    (stamped : handle.generation < issued) {operation : Operation}
    (spared : operation.Spares handle) :
    (store.perform issued operation).2.1.holds handle = false := by
  cases operation with
  | allocate =>
      rw [perform_allocate]
      exact not_holds_reserve lost
  | addCreature position program =>
      cases born :
          Creature.newborn (store.nextHandle issued) position program with
      | ok creature =>
          rw [perform_addCreature_of_ok born]
          -- the newborn has the stamp that is drawn now
          refine not_holds_set (not_holds_reserve lost) ?_
          intro same
          have fresh : (store.nextHandle issued).generation = issued :=
            generation_allocate store issued
          rw [← Creature.handle_of_newborn born, same] at fresh
          omega
      | error fault =>
          rw [perform_addCreature_of_error born]
          exact not_holds_reserve lost
  | set named creature =>
      exact not_holds_set lost spared
  | take named =>
      exact not_holds_take lost
  | deallocate named =>
      exact not_holds_release lost
  | modify named change =>
      exact not_holds_modify lost spared
  | get _ | isOut _ | handles | liveCount =>
      exact lost

private theorem not_holds_of_released
    (released : (store.deallocate issued handle).1 = .ok true) :
    (store.deallocate issued handle).2.holds handle = false := by
  have kept := fst_deallocate_eq_true_iff.1 released
  rw [snd_deallocate, holds_eq_false_iff, slot_release kept, if_pos rfl]
  exact nofun

/-- A handle that no slot is held by is answered by nothing. -/
structure Unknown (store : Store) (issued : Nat) (handle : Handle) :
    Prop where
  get_eq : store.get handle = none
  modify_eq : ∀ change, store.modify handle change = store
  take_eq : store.take handle = (none, store)
  isOut_eq : store.isOut handle = false
  deallocate_eq : store.deallocate issued handle = (.ok false, store)

theorem unknown_of_not_holds (lost : store.holds handle = false)
    (stamped : handle.generation < issued) :
    store.Unknown issued handle := by
  have nowhere := lost
  rw [holds, Bool.or_eq_false_iff, Option.isSome_eq_false_iff,
    Option.isNone_iff_eq_none] at nowhere
  rcases nowhere with ⟨absent, inside⟩
  refine ⟨absent, ?_, take_eq_of_none absent, inside,
    deallocate_eq_of_not_holds lost (Handle.isWritable_of_drawn stamped)⟩
  intro change
  rw [modify, absent]

end Store

namespace Depot

variable {ι : Type} [DecidableEq ι] {depot : Depot ι} {index : ι}
  {handle : Handle} {earlier later : List (ι × Operation)}

theorem not_holds_after
    (lost : (depot.stores index).holds handle = false)
    (stamped : handle.generation < depot.issued)
    (spared : ∀ operation, (index, operation) ∈ later →
      operation.Spares handle) :
    ((depot.after later).stores index).holds handle = false := by
  induction later generalizing depot with
  | nil =>
      exact lost
  | cons call later inductionHypothesis =>
      rcases call with ⟨place, operation⟩
      rw [after_cons]
      refine inductionHypothesis ?_ ?_ ?_
      · by_cases here : index = place
        · subst here
          rw [stores_perform_self]
          exact Store.not_holds_perform lost stamped
            (spared operation List.mem_cons_self)
        · rw [stores_perform_of_ne here]
          exact lost
      · rw [issued_perform]
        omega
      · intro operation member
        exact spared operation (List.mem_cons_of_mem _ member)

/-- A handle that was allocated and released never comes back. -/
theorem released_for_good (issued : Nat)
    (allocated : handle ∈ (opened issued).drawn earlier)
    (released :
      let depot := (opened issued).after earlier
      ((depot.stores index).deallocate depot.issued handle).1 = .ok true)
    (spared : ∀ operation, (index, operation) ∈ later →
      operation.Spares handle) :
    let depot :=
      (opened issued).after (earlier ++ (index, .deallocate handle) :: later)
    (depot.stores index).Unknown depot.issued handle := by
  intro depot
  have stamped := (generation_of_mem_drawn_after allocated).2
  have counted := issued_le_after ((opened issued).after earlier)
    ((index, .deallocate handle) :: later)
  rw [← after_append] at counted
  refine Store.unknown_of_not_holds ?_ (Nat.lt_of_lt_of_le stamped counted)
  rw [show depot = _ from after_append .., after_cons]
  refine not_holds_after ?_ ?_ spared
  · rw [stores_perform_self]
    exact Store.not_holds_of_released released
  · rw [issued_perform]
    omega

/-- The creature starves during its turn. Its slot is given to an heir, whom
the caller stores under the handle of the dead. -/
theorem inherited_slot :
    let dead : Creature := { (default : Creature) with handle := ⟨0, 0⟩ }
    let heir : Creature := { (default : Creature) with handle := ⟨0, 1⟩ }
    let earlier : List (Bool × Operation) :=
      [(true, .allocate), (true, .set ⟨0, 0⟩ dead), (true, .take ⟨0, 0⟩)]
    let later : List (Bool × Operation) :=
      [(true, .allocate), (true, .set ⟨0, 0⟩ heir), (false, .allocate),
        (false, .set ⟨0, 0⟩ dead), (true, .take ⟨0, 1⟩),
        (true, .deallocate ⟨0, 0⟩), (true, .set ⟨0, 0⟩ heir)]
    let calls := earlier ++ (true, .deallocate ⟨0, 0⟩) :: later
    let before := (opened 0).after earlier
    let depot := (opened 0).after calls
    ⟨0, 0⟩ ∈ (opened 0).drawn earlier ∧
      (before.stores true).isOut ⟨0, 0⟩ = true ∧
      ((before.stores true).deallocate before.issued ⟨0, 0⟩).1 = .ok true ∧
      (depot.stores true).handles = [⟨0, 1⟩] ∧
      (depot.stores true).Unknown depot.issued ⟨0, 0⟩ := by
  intro dead heir earlier later calls before depot
  have allocated : ⟨0, 0⟩ ∈ (opened 0).drawn earlier := by
    decide +kernel
  have released :
      ((before.stores true).deallocate before.issued ⟨0, 0⟩).1 =
        .ok true := by
    rw [Store.fst_deallocate_eq_true_iff]
    decide +kernel
  have spared : ∀ operation, (true, operation) ∈ later →
      operation.Spares ⟨0, 0⟩ := by
    simp [later, heir, Operation.Spares]
  exact ⟨allocated, by decide +kernel, released, by decide +kernel,
    released_for_good 0 allocated released spared⟩

end Depot

end Vivarium
