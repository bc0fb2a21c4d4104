import Mathlib.Data.Finmap
import Vivarium.Proofs.Operations

/-!
# Two tables

A store written down in another way: the creatures in their slots in one table,
and in a second one, under the index of a slot, the handle of whoever is out.
Nothing in this layout keeps a slot from standing in both tables, and an entry
of the second one need not lead back to where it stands. That neither happens
is due to what the calls do, and it holds whatever their arguments are. So the
two layouts cannot be told apart from outside.
-/

namespace Vivarium

/-- A store in two tables. -/
structure Tables where
  present : Array (Option Creature)
  free : List Nat
  away : Finmap fun _ : Nat => Handle

namespace Tables

def empty : Tables := ⟨#[], [], ∅⟩

def creature? (tables : Tables) (index : Nat) : Option Creature :=
  tables.present.getD index none

def allocate (tables : Tables) (issued : Nat) : Handle × Tables × Nat :=
  match tables.free with
  | index :: free => (⟨index, issued⟩, { tables with free }, issued + 1)
  | [] =>
    (⟨tables.present.size, issued⟩,
      { tables with present := tables.present.push none },
      issued + 1)

def get (tables : Tables) (handle : Handle) : Option Creature :=
  (tables.creature? handle.slot).filter (·.handle = handle)

def isOut (tables : Tables) (handle : Handle) : Bool :=
  tables.away.lookup handle.slot = some handle

/-- Whoever was out under the index is forgotten. -/
def set (tables : Tables) (handle : Handle) (creature : Creature) : Tables :=
  if handle.slot < tables.present.size then
    { tables with
      present := tables.present.setIfInBounds handle.slot (some creature)
      away := tables.away.erase handle.slot }
  else
    tables

def modify (tables : Tables) (handle : Handle)
    (change : Creature → Creature) : Tables :=
  match tables.get handle with
  | some creature =>
    { tables with
      present :=
        tables.present.setIfInBounds handle.slot (some (change creature)) }
  | none => tables

def take (tables : Tables) (handle : Handle) : Option Creature × Tables :=
  match tables.get handle with
  | some creature =>
    (some creature,
      { tables with
        present := tables.present.setIfInBounds handle.slot none
        away := tables.away.insert handle.slot handle })
  | none => (none, tables)

/-- A creature that is there is released before anyone looks who is out. -/
def deallocate (tables : Tables) (issued : Nat) (handle : Handle) :
    Except Fault Bool × Tables :=
  if handle.slot < tables.present.size then
    if (tables.get handle).isSome then
      (.ok true,
        { tables with
          present := tables.present.setIfInBounds handle.slot none
          free := handle.slot :: tables.free })
    else if tables.isOut handle then
      (.ok true,
        { tables with
          free := handle.slot :: tables.free
          away := tables.away.erase handle.slot })
    else if handle.isWritable issued then
      (.ok false, tables)
    else
      (.error .longFigure, tables)
  else
    (.ok false, tables)

def creatures (tables : Tables) : List Creature :=
  tables.present.toList.filterMap id

def perform (tables : Tables) (issued : Nat) :
    Operation → Answer × Tables × Nat
  | .allocate =>
    let (handle, tables, issued) := tables.allocate issued
    (.named handle, tables, issued)
  | .addCreature position program =>
    let (handle, tables, issued) := tables.allocate issued
    match Creature.newborn handle position program with
    | .ok creature => (.named handle, tables.set handle creature, issued)
    | .error fault => (.refused fault, tables, issued)
  | .set handle creature => (.done, tables.set handle creature, issued)
  | .take handle =>
    let (creature, tables) := tables.take handle
    (.found creature, tables, issued)
  | .deallocate handle =>
    let (result, tables) := tables.deallocate issued handle
    (.ofVerdict result, tables, issued)
  | .get handle => (.found (tables.get handle), tables, issued)
  | .modify handle change =>
    (.found (tables.get handle), tables.modify handle change, issued)
  | .isOut handle => (.verdict (tables.isOut handle), tables, issued)
  | .handles =>
    (.listed (tables.creatures.map Creature.handle), tables, issued)
  | .liveCount => (.counted tables.creatures.length, tables, issued)

end Tables

def Slot.absentee? : Slot → Option Handle
  | checkedOut handle => some handle
  | _ => none

/-! ## Tables of a store -/

/-- The tables say what the slots of a store hold, and whoever is out is out of
the slot of its own handle. -/
structure Tabulates (tables : Tables) (store : Store) : Prop where
  present : tables.present = store.slots.map Slot.creature?
  free : tables.free = store.free
  away : ∀ index,
    tables.away.lookup index = (store.slot index).absentee?
  named : ∀ {index handle},
    store.slot index = .checkedOut handle → handle.slot = index

namespace Tabulates

variable {tables other : Tables} {store : Store} {handle : Handle}
  {creature : Creature} {issued : Nat}

theorem empty : Tabulates .empty .empty where
  present := Array.map_empty.symm
  free := rfl
  away _ := rfl
  named found := by cases found

/-- A store has only one pair of tables. -/
theorem unique (left : Tabulates tables store)
    (right : Tabulates other store) : tables = other := by
  have sameAway : tables.away = other.away := by
    apply Finmap.ext_lookup
    intro index
    rw [left.away, right.away]
  rcases tables with ⟨present, free, away⟩
  rcases other with ⟨presentOther, freeOther, awayOther⟩
  rw [Tables.mk.injEq]
  exact ⟨left.present.trans right.present.symm,
    left.free.trans right.free.symm, sameAway⟩

/-! ### Reading -/

private theorem size_present (tabulates : Tabulates tables store) :
    tables.present.size = store.count := by
  rw [tabulates.present, Array.size_map]
  rfl

theorem creature?_eq (tabulates : Tabulates tables store) (index : Nat) :
    tables.creature? index = (store.slot index).creature? := by
  rw [Tables.creature?, tabulates.present, Array.getD_eq_getD_getElem?,
    Array.getElem?_map, Store.slot, Array.getD_eq_getD_getElem?]
  cases store.slots[index]? <;> rfl

theorem get_eq (tabulates : Tabulates tables store) (handle : Handle) :
    tables.get handle = store.get handle := by
  rw [Tables.get, tabulates.creature?_eq, Store.get]
  cases store.slot handle.slot <;> simp [Slot.creature?, Option.filter]

theorem isOut_eq (tabulates : Tabulates tables store) (handle : Handle) :
    tables.isOut handle = store.isOut handle := by
  rw [Tables.isOut, tabulates.away, Store.isOut]
  cases store.slot handle.slot <;> simp [Slot.absentee?]

theorem creatures_eq (tabulates : Tabulates tables store) :
    tables.creatures = store.creatures := by
  rw [Tables.creatures, tabulates.present, Array.toList_map,
    List.filterMap_map]
  rfl

/-- No slot stands in both tables. -/
theorem away_eq_none (tabulates : Tabulates tables store) {index : Nat}
    (stored : tables.creature? index = some creature) :
    tables.away.lookup index = none := by
  rw [tabulates.creature?_eq, Store.creature?_eq_some_iff] at stored
  rw [tabulates.away, stored]
  rfl

/-- Whoever is out is out of the slot of its own handle. -/
theorem slot_of_away (tabulates : Tabulates tables store) {index : Nat}
    (out : tables.away.lookup index = some handle) :
    handle.slot = index := by
  rw [tabulates.away] at out
  cases held : store.slot index with
  | checkedOut holder =>
      rw [held] at out
      cases out
      exact tabulates.named held
  | vacant | stored creature =>
      rw [held] at out
      cases out

/-! ### Writing -/

/-- One slot of a store is written, and the tables are told. -/
theorem write (tabulates : Tabulates tables store) {index : Nat}
    (bound : index < store.count) (held : Slot)
    (named : ∀ handle, held = .checkedOut handle → handle.slot = index)
    {away : Finmap fun _ : Nat => Handle}
    (told : ∀ other, away.lookup other =
      if index = other then held.absentee?
      else tables.away.lookup other)
    {free freeStore : List Nat} (sameFree : free = freeStore) :
    Tabulates
      ⟨tables.present.setIfInBounds index held.creature?, free, away⟩
      ⟨store.slots.setIfInBounds index held, freeStore⟩ where
  present := by
    rw [Array.map_setIfInBounds, tabulates.present]
  free := sameFree
  away other := by
    rw [told, Store.slot_setIfInBounds bound]
    split
    · rfl
    · exact tabulates.away other
  named {other handle} found := by
    rw [Store.slot_setIfInBounds bound] at found
    split at found
    · next same =>
      rw [named handle found, same]
    · exact tabulates.named found

theorem lookup_erase (away : Finmap fun _ : Nat => Handle)
    (index other : Nat) :
    (away.erase index).lookup other =
      if index = other then none else away.lookup other := by
  split
  · next same =>
    rw [← same]
    exact Finmap.lookup_erase _ _
  · next different =>
    exact Finmap.lookup_erase_ne (Ne.symm different)

theorem lookup_insert (away : Finmap fun _ : Nat => Handle)
    (index other : Nat) (handle : Handle) :
    (away.insert index handle).lookup other =
      if index = other then some handle else away.lookup other := by
  split
  · next same =>
    rw [← same]
    exact Finmap.lookup_insert _
  · next different =>
    exact Finmap.lookup_insert_of_ne _ (Ne.symm different)

/-- Nobody is out under the index of a creature that is there, so that nothing
has to be told of it. -/
theorem untold (tabulates : Tabulates tables store) {index : Nat}
    (stored : store.slot index = .stored creature) (other : Nat) :
    tables.away.lookup other =
      if index = other then none else tables.away.lookup other := by
  split
  · next same =>
    rw [← same, tabulates.away, stored]
    rfl
  · rfl

theorem set (tabulates : Tabulates tables store) (handle : Handle)
    (creature : Creature) :
    Tabulates (tables.set handle creature) (store.set handle creature) := by
  have sameSize := tabulates.size_present
  by_cases bound : handle.slot < store.count
  · rw [Tables.set, if_pos (sameSize ▸ bound)]
    exact tabulates.write bound (.stored creature) (by simp)
      (lookup_erase _ _) tabulates.free
  · rw [Tables.set, if_neg (sameSize ▸ bound),
      Store.set_eq_self (Nat.not_lt.1 bound)]
    exact tabulates

theorem modify (tabulates : Tabulates tables store) (handle : Handle)
    (change : Creature → Creature) :
    Tabulates (tables.modify handle change) (store.modify handle change) := by
  cases found : store.get handle with
  | none =>
      rw [Tables.modify, Store.modify, tabulates.get_eq, found]
      exact tabulates
  | some creature =>
      have bound := Store.lt_count_of_get found
      have stored := (Store.get_eq_some_iff.1 found).1
      rw [Tables.modify, Store.modify, tabulates.get_eq, found]
      exact tabulates.write bound (.stored (change creature)) (by simp)
        (tabulates.untold stored) tabulates.free

theorem take (tabulates : Tabulates tables store) (handle : Handle) :
    (tables.take handle).1 = (store.take handle).1 ∧
      Tabulates (tables.take handle).2 (store.take handle).2 := by
  cases found : store.get handle with
  | none =>
      rw [Tables.take, Store.take, tabulates.get_eq, found]
      exact ⟨rfl, tabulates⟩
  | some creature =>
      have bound := Store.lt_count_of_get found
      have named : ∀ holder, Slot.checkedOut handle = .checkedOut holder →
          holder.slot = handle.slot := by
        rintro _ ⟨⟩
        rfl
      rw [Tables.take, Store.take, tabulates.get_eq, found]
      exact ⟨rfl, tabulates.write bound (.checkedOut handle) named
        (lookup_insert _ _ · handle) tabulates.free⟩

/-- The slot of whoever is out is empty already. -/
private theorem present_emptied (tabulates : Tabulates tables store)
    (out : store.slot handle.slot = .checkedOut handle) :
    tables.present.setIfInBounds handle.slot none = tables.present := by
  have empty : tables.creature? handle.slot = none := by
    rw [tabulates.creature?_eq, out]
    rfl
  rw [Tables.creature?, Array.getD_eq_getD_getElem?] at empty
  apply Array.ext_getElem?
  intro index
  rw [Array.getElem?_setIfInBounds]
  split
  · next same =>
    subst same
    split
    · next bound =>
      rw [Array.getElem?_eq_getElem bound] at empty ⊢
      exact congrArg some empty.symm
    · next beyond =>
      exact (Array.getElem?_eq_none (Nat.not_lt.1 beyond)).symm
  · rfl

theorem deallocate (tabulates : Tabulates tables store) (issued : Nat)
    (handle : Handle) :
    (tables.deallocate issued handle).1 = (store.deallocate issued handle).1 ∧
      Tabulates (tables.deallocate issued handle).2
        (store.deallocate issued handle).2 := by
  have sameSize := tabulates.size_present
  have sameFree : handle.slot :: tables.free = handle.slot :: store.free :=
    congrArg _ tabulates.free
  rw [Store.fst_deallocate, Store.snd_deallocate]
  by_cases kept : store.holds handle = true
  · have bound := Store.lt_count_of_holds kept
    rw [Tables.deallocate, if_pos (sameSize ▸ bound), Store.release,
      if_pos kept, kept, tabulates.get_eq, tabulates.isOut_eq]
    cases found : store.get handle with
    | some creature =>
        have stored := (Store.get_eq_some_iff.1 found).1
        exact ⟨rfl, tabulates.write bound .vacant (by simp)
          (tabulates.untold stored) sameFree⟩
    | none =>
        have out : store.isOut handle = true := by
          rw [Store.holds, found] at kept
          exact kept
        -- only the entry of whoever was out has to go
        rw [out, ← tabulates.present_emptied (Store.isOut_iff.1 out)]
        exact ⟨rfl, tabulates.write bound .vacant (by simp)
          (lookup_erase _ _) sameFree⟩
  · have lost := Bool.eq_false_iff.2 kept
    have nowhere := lost
    rw [Store.holds, Bool.or_eq_false_iff] at nowhere
    rw [Store.release_eq_of_not_holds lost, lost, Tables.deallocate, sameSize,
      tabulates.get_eq, tabulates.isOut_eq, nowhere.1, nowhere.2]
    by_cases inside : handle.slot < store.count
    · rw [if_pos inside]
      cases writable : handle.isWritable issued with
      | true => simp [tabulates]
      | false => simp [inside, tabulates]
    · simp [inside, tabulates]

theorem allocate (tabulates : Tabulates tables store) (issued : Nat) :
    (tables.allocate issued).1 = (store.allocate issued).1 ∧
      Tabulates (tables.allocate issued).2.1 (store.allocate issued).2.1 ∧
      (tables.allocate issued).2.2 = (store.allocate issued).2.2 := by
  have sameSize : tables.present.size = store.slots.size :=
    tabulates.size_present
  have sameSlot := Store.slot_allocate store issued
  have sameFree := tabulates.free
  cases free : store.free with
  | cons index rest =>
      rw [free] at sameFree
      rw [Tables.allocate, Store.allocate, sameFree, free]
      exact ⟨rfl, ⟨tabulates.present, rfl, tabulates.away, tabulates.named⟩,
        rfl⟩
  | nil =>
      rw [free] at sameFree
      rw [Store.allocate, free] at sameSlot
      rw [Tables.allocate, Store.allocate, sameFree, free, sameSize]
      refine ⟨rfl, ⟨?_, rfl, ?_, ?_⟩, rfl⟩
      · rw [Array.map_push, tabulates.present]
        rfl
      · intro index
        rw [sameSlot]
        exact tabulates.away index
      · intro index handle found
        rw [sameSlot] at found
        exact tabulates.named found

/-! ### Calls -/

/-- A call is answered alike, whatever its arguments are. -/
theorem perform (tabulates : Tabulates tables store) (issued : Nat)
    (operation : Operation) :
    (tables.perform issued operation).1 =
        (store.perform issued operation).1 ∧
      Tabulates (tables.perform issued operation).2.1
        (store.perform issued operation).2.1 ∧
      (tables.perform issued operation).2.2 =
        (store.perform issued operation).2.2 := by
  cases operation with
  | allocate =>
      obtain ⟨sameHandle, after, sameIssued⟩ := tabulates.allocate issued
      exact ⟨congrArg Answer.named sameHandle, after, sameIssued⟩
  | addCreature position program =>
      obtain ⟨sameHandle, after, sameIssued⟩ := tabulates.allocate issued
      simp only [Tables.perform, Store.perform, Store.addCreature,
        sameHandle]
      cases Creature.newborn (store.allocate issued).1 position program with
      | ok creature =>
          exact ⟨rfl, after.set _ creature, sameIssued⟩
      | error fault =>
          exact ⟨rfl, after, sameIssued⟩
  | set handle creature =>
      exact ⟨rfl, tabulates.set handle creature, rfl⟩
  | take handle =>
      obtain ⟨sameCreature, after⟩ := tabulates.take handle
      exact ⟨congrArg Answer.found sameCreature, after, rfl⟩
  | deallocate handle =>
      obtain ⟨sameVerdict, after⟩ := tabulates.deallocate issued handle
      exact ⟨congrArg Answer.ofVerdict sameVerdict, after, rfl⟩
  | get handle =>
      exact ⟨congrArg Answer.found (tabulates.get_eq handle), tabulates, rfl⟩
  | modify handle change =>
      exact ⟨congrArg Answer.found (tabulates.get_eq handle),
        tabulates.modify handle change, rfl⟩
  | isOut handle =>
      exact ⟨congrArg Answer.verdict (tabulates.isOut_eq handle), tabulates,
        rfl⟩
  | handles =>
      have sameHandles := congrArg (List.map Creature.handle)
        tabulates.creatures_eq
      exact ⟨congrArg Answer.listed sameHandles, tabulates, rfl⟩
  | liveCount =>
      have sameLength := congrArg List.length tabulates.creatures_eq
      exact ⟨congrArg Answer.counted sameLength, tabulates, rfl⟩

end Tabulates

/-! ## Families of tables -/

/-- Tables for each store of a depot, with a count of stamps of their own. -/
structure Archive (ι : Type) where
  tables : ι → Tables
  issued : Nat

namespace Archive

variable {ι : Type} [DecidableEq ι]

def opened (issued : Nat) : Archive ι :=
  ⟨fun _ => .empty, issued⟩

def perform (archive : Archive ι) (index : ι) (operation : Operation) :
    Answer × Archive ι :=
  let (answer, tables, issued) :=
    (archive.tables index).perform archive.issued operation
  (answer, ⟨Function.update archive.tables index tables, issued⟩)

def after (archive : Archive ι) (calls : List (ι × Operation)) :
    Archive ι :=
  calls.foldl
    (fun archive call => (archive.perform call.1 call.2).2) archive

def answers (archive : Archive ι) : List (ι × Operation) → List Answer
  | [] => []
  | (index, operation) :: calls =>
    (archive.perform index operation).1 ::
      answers (archive.perform index operation).2 calls

end Archive

structure Archives {ι : Type} (archive : Archive ι) (depot : Depot ι) :
    Prop where
  tabulates : ∀ index,
    Tabulates (archive.tables index) (depot.stores index)
  issued : archive.issued = depot.issued

namespace Archives

variable {ι : Type} [DecidableEq ι] {archive : Archive ι} {depot : Depot ι}

omit [DecidableEq ι] in
theorem opened (issued : Nat) :
    Archives (.opened issued : Archive ι) (.opened issued) where
  tabulates _ := Tabulates.empty
  issued := rfl

theorem perform (archives : Archives archive depot) (index : ι)
    (operation : Operation) :
    (archive.perform index operation).1 =
        (depot.perform index operation).1 ∧
      Archives (archive.perform index operation).2
        (depot.perform index operation).2 := by
  obtain ⟨sameAnswer, after, sameIssued⟩ :=
    (archives.tabulates index).perform depot.issued operation
  unfold Archive.perform Depot.perform
  rw [archives.issued]
  refine ⟨sameAnswer, ?_, sameIssued⟩
  intro other
  by_cases here : other = index
  · subst here
    simp only [Function.update_self]
    exact after
  · simp only [Function.update_of_ne here]
    exact archives.tabulates other

/-- Any number of calls is answered alike. -/
theorem after (archives : Archives archive depot)
    (calls : List (ι × Operation)) :
    archive.answers calls = depot.answers calls ∧
      Archives (archive.after calls) (depot.after calls) := by
  induction calls generalizing archive depot with
  | nil =>
      exact ⟨rfl, archives⟩
  | cons call calls inductionHypothesis =>
      obtain ⟨first, stepped⟩ := archives.perform call.1 call.2
      obtain ⟨others, atLast⟩ := inductionHypothesis stepped
      exact ⟨congrArg₂ List.cons first others, atLast⟩

end Archives

end Vivarium
