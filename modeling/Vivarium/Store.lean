import Vivarium.Creature

/-!
# The store

The owner of all creatures: an array of slots and a list of the slots to use
again, the last released first. A look-up answers a creature only to the very
handle that the creature carries, so a handle that outlives its creature is
answered by nothing. A creature that takes its turn is checked out; its slot
stays reserved for it meanwhile.

Stamps are drawn from a counter that the caller keeps, since several stores
may share it.
-/

namespace Vivarium

inductive Slot where
  /-- No creature, although the slot may be reserved for one. -/
  | vacant
  | stored (creature : Creature)
  /-- The creature with this handle is taking its turn. -/
  | checkedOut (handle : Handle)
deriving DecidableEq, Inhabited

namespace Slot

def creature? : Slot → Option Creature
  | stored creature => some creature
  | _ => none

end Slot

structure Store where
  slots : Array Slot
  free : List Nat
deriving DecidableEq

namespace Store

def empty : Store := ⟨#[], []⟩

instance : Inhabited Store := ⟨empty⟩

/-- What the slot with a given index holds; nothing if there is none. -/
def slot (store : Store) (index : Nat) : Slot :=
  store.slots.getD index .vacant

def count (store : Store) : Nat := store.slots.size

def freeCount (store : Store) : Nat := store.free.length

/-- Reserves a slot: the one that was released last, or else a new one. -/
def allocate (store : Store) (issued : Nat) : Handle × Store × Nat :=
  match store.free with
  | index :: free => (⟨index, issued⟩, { store with free }, issued + 1)
  | [] =>
    (⟨store.slots.size, issued⟩,
      { store with slots := store.slots.push .vacant },
      issued + 1)

def get (store : Store) (handle : Handle) : Option Creature :=
  match store.slot handle.slot with
  | .stored creature => if creature.handle = handle then some creature else none
  | _ => none

/-- Whether the creature that a handle names is taking its turn. -/
def isOut (store : Store) (handle : Handle) : Bool :=
  match store.slot handle.slot with
  | .checkedOut holder => holder = handle
  | _ => false

/-- Puts a creature into the slot of a handle, whatever was there before. A
slot that does not exist is left alone. -/
def set (store : Store) (handle : Handle) (creature : Creature) : Store :=
  { store with
    slots := store.slots.setIfInBounds handle.slot (.stored creature) }

def modify (store : Store) (handle : Handle)
    (change : Creature → Creature) : Store :=
  match store.get handle with
  | some creature => store.set handle (change creature)
  | none => store

def take (store : Store) (handle : Handle) : Option Creature × Store :=
  match store.get handle with
  | some creature =>
    (some creature,
      { store with
        slots :=
          store.slots.setIfInBounds handle.slot (.checkedOut handle) })
  | none => (none, store)

/-- Whether a handle still holds its slot, for a creature that is stored or
for one that is taking its turn. -/
def holds (store : Store) (handle : Handle) : Bool :=
  (store.get handle).isSome || store.isOut handle

/-- Releases the slot of a handle if the handle still holds it. -/
def release (store : Store) (handle : Handle) : Bool × Store :=
  if store.holds handle then
    (true,
      { slots := store.slots.setIfInBounds handle.slot .vacant
        free := handle.slot :: store.free })
  else
    (false, store)

/-- Releases a slot for a host, whose handle may be made up. One that leads to a
slot without holding it is told to the journal, so its stamp has to be written
then. -/
def deallocate (store : Store) (issued : Nat) (handle : Handle) :
    Except Fault Bool × Store :=
  let (released, after) := store.release handle
  let tellable :=
    released || store.count ≤ handle.slot || handle.isWritable issued
  (if tellable then .ok released else .error .longFigure, after)

/-- The stored creatures in the order of their slots. -/
def creatures (store : Store) : List Creature :=
  store.slots.toList.filterMap Slot.creature?

def handles (store : Store) : List Handle :=
  store.creatures.map Creature.handle

def liveCount (store : Store) : Nat :=
  store.creatures.length

def handleAt (store : Store) (index : Int) : Option Handle :=
  if index < 0 then none
  else (store.slot index.toNat).creature?.map Creature.handle

/-- Reserves a slot and stores a newborn creature in it. When the program is
refused the slot is reserved all the same, and stays empty. -/
def addCreature (store : Store) (issued : Nat) (position : Position)
    (program : List Codon) : Except Fault Handle × Store × Nat :=
  let (handle, store, issued) := store.allocate issued
  match Creature.newborn handle position program with
  | .ok creature => (.ok handle, store.set handle creature, issued)
  | .error fault => (.error fault, store, issued)

end Store

end Vivarium
