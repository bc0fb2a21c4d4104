import Mathlib.Logic.Function.Basic
import Vivarium.Proofs.Grid
import Vivarium.Store.Lookup

/-!
# Residents

A store read as a map from slots to creatures. The creature that takes its
turn is out of the store, yet its slot stays its own: it counts as the
resident of that slot.

Grid and store agree when every mark on a tile names the resident that stands
there and every resident has its mark. Each elementary change of a population
touches both sides and keeps them in agreement.
-/

namespace Vivarium

namespace Store

/-- The creature that each slot belongs to, counting the one that is out. -/
def residents (store : Store) : Option Creature → Nat → Option Creature
  | none => fun index => (store.slot index).creature?
  | some actor =>
      Function.update (fun index => (store.slot index).creature?)
        actor.handle.slot (some actor)

variable {store : Store} {actor creature : Creature}

theorem residents_none (store : Store) (index : Nat) :
    store.residents none index = (store.slot index).creature? :=
  rfl

theorem residents_some (store : Store) (actor : Creature) :
    store.residents (some actor) =
      Function.update (store.residents none) actor.handle.slot
        (some actor) :=
  rfl

theorem residents_none_eq_some_iff {index : Nat} :
    store.residents none index = some creature ↔
      store.slot index = .stored creature :=
  creature?_eq_some_iff

theorem residents_self (store : Store) (actor : Creature) :
    store.residents (some actor) actor.handle.slot = some actor := by
  rw [residents_some, Function.update_self]

theorem residents_of_ne {index : Nat}
    (other : index ≠ actor.handle.slot) :
    store.residents (some actor) index = (store.slot index).creature? := by
  rw [residents_some, Function.update_of_ne other, residents_none]

/-- What the actor makes of itself, its handle apart. -/
theorem residents_revise {revised : Creature}
    (sameHandle : revised.handle = actor.handle) :
    store.residents (some revised) =
      Function.update (store.residents (some actor)) actor.handle.slot
        (some revised) := by
  rw [residents_some, residents_some, sameHandle, Function.update_idem]

/-- A write to one slot, which is not that of the actor. -/
theorem residents_write
    {after : Store} {index : Nat} {held : Slot}
    (written : ∀ other,
      after.slot other = if index = other then held else store.slot other)
    {out : Option Creature}
    (elsewhere : ∀ actor ∈ out, actor.handle.slot ≠ index) :
    after.residents out =
      Function.update (store.residents out) index held.creature? := by
  have base :
      after.residents none =
        Function.update (store.residents none) index held.creature? := by
    funext other
    rw [Function.update_apply, residents_none, residents_none, written]
    by_cases same : index = other
    · rw [if_pos same, if_pos same.symm]
    · rw [if_neg same, if_neg (Ne.symm same)]
  cases out with
  | none =>
      exact base
  | some actor =>
      rw [residents_some, residents_some, base,
        Function.update_comm (elsewhere actor rfl)]

theorem residents_take {handle : Handle}
    (found : store.get handle = some creature) :
    (store.take handle).2.residents (some creature) =
      store.residents none := by
  rcases get_eq_some_iff.1 found with ⟨stored, sameHandle⟩
  funext index
  rw [residents_some, Function.update_apply]
  split
  · next same =>
    rw [same, sameHandle, residents_none, stored]
    rfl
  · next different =>
    rw [sameHandle] at different
    rw [residents_none, slot_take found, if_neg (Ne.symm different),
      residents_none]

theorem residents_put (bound : creature.handle.slot < store.count) :
    (store.set creature.handle creature).residents none =
      store.residents (some creature) := by
  rw [residents_write (slot_set bound creature) (by simp)]
  rfl

/-- Nobody is the resident of a slot that its actor gives up. -/
theorem residents_release
    (kept : store.holds actor.handle = true) :
    (store.release actor.handle).2.residents none =
      Function.update (store.residents (some actor)) actor.handle.slot
        none := by
  rw [residents_write (slot_release kept) (by simp), residents_some,
    Function.update_idem]
  rfl

end Store

/-- Grid and residents agree: every mark names the creature that stands
there, and every creature has its mark. -/
structure Occupancy
    (world : World) (residents : Nat → Option Creature) : Prop where
  slot_eq : ∀ {index creature}, residents index = some creature →
    creature.handle.slot = index
  marked : ∀ {index creature}, residents index = some creature →
    world.occupant? creature.position = some creature.handle
  resolved : ∀ {position handle}, world.occupant? position = some handle →
    ∃ creature, residents handle.slot = some creature ∧
      creature.handle = handle ∧ creature.position = position

namespace Occupancy

variable {world : World} {residents : Nat → Option Creature}
  {index : Nat} {creature : Creature}

theorem contains (occupancy : Occupancy world residents)
    (present : residents index = some creature) :
    world.contains creature.position = true :=
  World.contains_of_occupant? (occupancy.marked present)

/-- Two residents never share a tile. -/
private theorem eq_of_position (occupancy : Occupancy world residents)
    {other : Nat} {neighbor : Creature}
    (present : residents index = some creature)
    (otherPresent : residents other = some neighbor)
    (samePosition : neighbor.position = creature.position) :
    other = index := by
  have mark := occupancy.marked present
  have otherMark := occupancy.marked otherPresent
  rw [samePosition, mark] at otherMark
  have sameHandle : creature.handle = neighbor.handle :=
    Option.some.inj otherMark
  rw [← occupancy.slot_eq present, ← occupancy.slot_eq otherPresent,
    sameHandle]

theorem of_occupant?_eq (occupancy : Occupancy world residents)
    {after : World}
    (same : ∀ position, after.occupant? position = world.occupant? position) :
    Occupancy after residents where
  slot_eq := occupancy.slot_eq
  marked present := by
    rw [same]
    exact occupancy.marked present
  resolved occupied := by
    rw [same] at occupied
    exact occupancy.resolved occupied

/-- A resident changes, but neither its name nor its place. -/
theorem revise (occupancy : Occupancy world residents)
    (present : residents index = some creature) {revised : Creature}
    (sameHandle : revised.handle = creature.handle)
    (samePosition : revised.position = creature.position) :
    Occupancy world (Function.update residents index (some revised)) where
  slot_eq := by
    intro other resident found
    rw [Function.update_apply] at found
    split at found
    · next same =>
      cases found
      rw [same, sameHandle]
      exact occupancy.slot_eq present
    · exact occupancy.slot_eq found
  marked := by
    intro other resident found
    rw [Function.update_apply] at found
    split at found
    · cases found
      rw [sameHandle, samePosition]
      exact occupancy.marked present
    · exact occupancy.marked found
  resolved := by
    intro position handle occupied
    rcases occupancy.resolved occupied with ⟨resident, found, named, placed⟩
    rw [Function.update_apply]
    by_cases same : handle.slot = index
    · rw [same, present] at found
      cases found
      rw [if_pos same]
      exact ⟨revised, rfl, sameHandle.trans named, samePosition.trans placed⟩
    · rw [if_neg same]
      exact ⟨resident, found, named, placed⟩

/-- A resident leaves, and its tile is vacated. -/
theorem remove (occupancy : Occupancy world residents)
    (present : residents index = some creature) :
    Occupancy (world.setOccupant creature.position none)
      (Function.update residents index none) := by
  have occupant? :=
    World.occupant?_setOccupant (occupancy.contains present) none
  refine ⟨?_, ?_, ?_⟩
  · intro other resident found
    rw [Function.update_apply] at found
    split at found
    · cases found
    · exact occupancy.slot_eq found
  · intro other resident found
    rw [Function.update_apply] at found
    split at found
    · cases found
    · next different =>
      have offOrigin : creature.position ≠ resident.position := by
        intro same
        exact different
          (occupancy.eq_of_position present found same.symm)
      rw [occupant?, if_neg offOrigin]
      exact occupancy.marked found
  · intro position handle occupied
    rw [occupant?] at occupied
    split at occupied
    · cases occupied
    · next offOrigin =>
      rcases occupancy.resolved occupied with ⟨resident, found, named, placed⟩
      have different : handle.slot ≠ index := by
        intro same
        rw [same, present] at found
        cases found
        exact offOrigin placed
      rw [Function.update_of_ne different]
      exact ⟨resident, found, named, placed⟩

/-- A newcomer takes a vacant slot and a free tile. -/
theorem add (occupancy : Occupancy world residents)
    (vacant : residents creature.handle.slot = none)
    (onGrid : world.contains creature.position = true)
    (free : world.occupant? creature.position = none) :
    Occupancy (world.setOccupant creature.position (some creature.handle))
      (Function.update residents creature.handle.slot (some creature)) := by
  have occupant? :=
    World.occupant?_setOccupant onGrid (some creature.handle)
  refine ⟨?_, ?_, ?_⟩
  · intro other resident found
    rw [Function.update_apply] at found
    split at found
    · next same =>
      cases found
      exact same.symm
    · exact occupancy.slot_eq found
  · intro other resident found
    rw [Function.update_apply] at found
    rw [occupant?]
    split at found
    · cases found
      rw [if_pos rfl]
    · have mark := occupancy.marked found
      have offTarget : creature.position ≠ resident.position := by
        intro same
        rw [← same, free] at mark
        cases mark
      rw [if_neg offTarget, mark]
  · intro position handle occupied
    rw [occupant?] at occupied
    split at occupied
    · next atTarget =>
      cases occupied
      exact ⟨creature, Function.update_self _ _ _, rfl, atTarget⟩
    · rcases occupancy.resolved occupied with ⟨resident, found, named, placed⟩
      have different : handle.slot ≠ creature.handle.slot := by
        intro same
        rw [same, vacant] at found
        cases found
      rw [Function.update_of_ne different]
      exact ⟨resident, found, named, placed⟩

/-- A resident steps onto a free tile: it leaves, and comes again there. -/
theorem relocate (occupancy : Occupancy world residents)
    (present : residents index = some creature) {target : Position}
    (onGrid : world.contains target = true)
    (free : world.occupant? target = none) :
    Occupancy
      ((world.setOccupant creature.position none).setOccupant target
        (some creature.handle))
      (Function.update residents index
        (some { creature with position := target })) := by
  have own := occupancy.slot_eq present
  have away := occupancy.remove present
  have vacant :
      Function.update residents index none creature.handle.slot = none := by
    rw [own, Function.update_self]
  have still : (world.setOccupant creature.position none).contains target =
      true := by
    rw [World.contains_setOccupant, onGrid]
  have unoccupied :
      (world.setOccupant creature.position none).occupant? target =
        none := by
    rw [World.occupant?_setOccupant (occupancy.contains present)]
    split
    · rfl
    · exact free
  have back :=
    @add _ _ { creature with position := target } away vacant still
      unoccupied
  dsimp only at back
  rwa [own, Function.update_idem] at back

end Occupancy

end Vivarium
