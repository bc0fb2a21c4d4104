import Vivarium.Proofs.Tables

/-!
# Checking out and back in

A creature that is out for its turn has left its slot to no one else. When it
is put back nothing about the store shows that it was away, and when it is
released instead the store is as if it had been released from within. So it is
in every state that calls can bring about, however they misuse the store.
-/

namespace Vivarium

namespace Store

variable {store : Store} {handle other : Handle} {creature : Creature}
  (found : store.get handle = some creature)
include found

theorem set_take : (store.take handle).2.set handle creature = store := by
  have bound : handle.slot < (store.take handle).2.count := by
    rw [count_take]
    exact lt_count_of_get found
  refine ext_slot ?_ ?_ ?_
  · rw [count_set, count_take]
  · intro index
    rw [slot_set bound, slot_take found]
    by_cases here : handle.slot = index
    · rw [if_pos here, ← here, (get_eq_some_iff.1 found).1]
    · rw [if_neg here, if_neg here]
  · exact free_take store handle

private theorem get_take_self : (store.take handle).2.get handle = none := by
  unfold get
  rw [slot_take found, if_pos rfl]

private theorem isOut_take_self
    : (store.take handle).2.isOut handle = true := by
  rw [isOut_iff, slot_take found, if_pos rfl]

private theorem isOut_take_of_ne (different : other ≠ handle) :
    (store.take handle).2.isOut other = store.isOut other := by
  rw [Bool.eq_iff_iff, isOut_iff, isOut_iff, slot_take found]
  by_cases here : handle.slot = other.slot
  · have stored := (get_eq_some_iff.1 found).1
    rw [here] at stored
    rw [if_pos here, stored]
    simp [Ne.symm different]
  · rw [if_neg here]

theorem deallocate_take (issued : Nat) :
    (store.take handle).2.deallocate issued handle =
      store.deallocate issued handle := by
  have kept := holds_of_get found
  have keptOut : (store.take handle).2.holds handle = true := by
    rw [holds, isOut_take_self found, Bool.or_true]
  refine Prod.ext ?_ (ext_slot ?_ ?_ ?_)
  · rw [fst_deallocate_eq_true_iff.2 kept, fst_deallocate_eq_true_iff.2 keptOut]
  · rw [snd_deallocate, snd_deallocate, count_release, count_release,
      count_take]
  · intro index
    rw [snd_deallocate, snd_deallocate, slot_release keptOut,
      slot_release kept, slot_take found]
    by_cases here : handle.slot = index
    · rw [if_pos here, if_pos here]
    · rw [if_neg here, if_neg here, if_neg here]
  · rw [snd_deallocate, snd_deallocate, free_release keptOut,
      free_release kept, free_take]

end Store

/-- What a store is like while a creature is out, and once it is back or has
been released. Its tables are told all of it. -/
structure Lends (tables : Tables) (store : Store) (handle : Handle)
    (creature : Creature) : Prop where
  taken : (store.take handle).1 = some creature
  tabulates : Tabulates (tables.take handle).2 (store.take handle).2
  absent : (store.take handle).2.get handle = none
  out : (store.take handle).2.isOut handle = true
  others : ∀ other ≠ handle,
    (store.take handle).2.get other = store.get other ∧
      (store.take handle).2.isOut other = store.isOut other
  restored : (store.take handle).2.set handle creature = store ∧
    (tables.take handle).2.set handle creature = tables
  released : ∀ issued,
    (store.take handle).2.deallocate issued handle =
        store.deallocate issued handle ∧
      (tables.take handle).2.deallocate issued handle =
        tables.deallocate issued handle ∧
      (store.deallocate issued handle).1 = .ok true

theorem Tabulates.lends {tables : Tables} {store : Store}
    (tabulates : Tabulates tables store) {handle : Handle}
    {creature : Creature} (found : store.get handle = some creature) :
    Lends tables store handle creature := by
  have taken := (tabulates.take handle).2
  have putBack := taken.set handle creature
  rw [Store.set_take found] at putBack
  refine
    { taken := (Store.fst_take store handle).trans found
      tabulates := taken
      absent := Store.get_take_self found
      out := Store.isOut_take_self found
      others := fun other different =>
        ⟨Store.get_take_of_ne found different,
          Store.isOut_take_of_ne found different⟩
      restored := ⟨Store.set_take found, putBack.unique tabulates⟩
      released := ?_ }
  intro issued
  obtain ⟨sameVerdictOut, releasedOut⟩ := taken.deallocate issued handle
  obtain ⟨sameVerdict, released⟩ := tabulates.deallocate issued handle
  rw [Store.deallocate_take found] at sameVerdictOut releasedOut
  refine ⟨Store.deallocate_take found issued, ?_, ?_⟩
  · exact Prod.ext (sameVerdictOut.trans sameVerdict.symm)
      (releasedOut.unique released)
  · exact Store.fst_deallocate_eq_true_iff.2 (Store.holds_of_get found)

namespace Depot

variable {ι : Type} [DecidableEq ι]

/-- Whatever has been called, with whatever arguments: the store and its two
tables have answered alike, no slot is in both tables, whoever is out is out of
the slot of its own handle, and to take a creature out can be undone. -/
theorem checkOut_undone (issued : Nat) (calls : List (ι × Operation))
    (index : ι) :
    let store := ((opened issued).after calls).stores index
    let tables := ((Archive.opened issued).after calls).tables index
    (Archive.opened issued).answers calls = (opened issued).answers calls ∧
      Tabulates tables store ∧
      (∀ slot creature, tables.creature? slot = some creature →
        tables.away.lookup slot = none) ∧
      (∀ slot handle, tables.away.lookup slot = some handle →
        handle.slot = slot) ∧
      ∀ handle creature, store.get handle = some creature →
        Lends tables store handle creature := by
  intro store tables
  obtain ⟨sameAnswers, archives⟩ :=
    (Archives.opened issued : Archives _ (opened (ι := ι) issued)).after calls
  have tabulates := archives.tabulates index
  refine ⟨sameAnswers, tabulates, ?_, ?_, ?_⟩
  · intro slot creature stored
    exact tabulates.away_eq_none stored
  · intro slot handle out
    exact tabulates.slot_of_away out
  · intro handle creature found
    exact tabulates.lends found

/-- While one creature is out a stranger is written over it, under a handle
that nobody ever had. Another creature is out, and a third one is lent. -/
theorem stranger_checkOut_undone :
    let named (slot generation : Nat) : Creature :=
      { (default : Creature) with handle := ⟨slot, generation⟩ }
    let calls : List (Bool × Operation) :=
      [(true, .allocate), (true, .set ⟨0, 0⟩ (named 0 0)),
        (true, .allocate), (true, .set ⟨1, 1⟩ (named 1 1)),
        (true, .take ⟨1, 1⟩), (true, .set ⟨1, 5⟩ (named 0 9)),
        (true, .deallocate ⟨1, 1⟩), (false, .allocate),
        (true, .addCreature ⟨0, 0⟩ [.gene .eat]), (true, .take ⟨2, 3⟩)]
    let store := ((opened 0).after calls).stores true
    let tables := ((Archive.opened 0).after calls).tables true
    tables.creature? 1 = some (named 0 9) ∧
      tables.away.lookup 1 = none ∧
      tables.away.lookup 2 = some ⟨2, 3⟩ ∧
      store.get ⟨0, 0⟩ = some (named 0 0) ∧
      Lends tables store ⟨0, 0⟩ (named 0 0) := by
  intro named calls store tables
  have stranger : tables.creature? 1 = some (named 0 9) := by
    decide +kernel
  have out : tables.away.lookup 2 = some ⟨2, 3⟩ := by
    decide +kernel
  have found : store.get ⟨0, 0⟩ = some (named 0 0) := by
    decide +kernel
  obtain ⟨-, -, apart, -, lends⟩ := checkOut_undone 0 calls true
  exact ⟨stranger, apart 1 _ stranger, out, found, lends _ _ found⟩

end Depot

end Vivarium
