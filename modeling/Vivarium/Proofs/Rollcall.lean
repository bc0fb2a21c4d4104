import Vivarium.Proofs.Consistent

/-!
# The roll call

The stored creatures in the order of their slots, and the occupied tiles. While
nobody takes a turn the two lists say the same, so they have the same length.
-/

namespace Vivarium

namespace Consistent

variable {world : World} {store : Store} {issued : Nat}
  {out : Option Creature} {creature : Creature} {handle : Handle}

theorem placed (consistent : Consistent world store issued out) :
    store.Placed := by
  intro index creature stored
  exact consistent.settled.slot_eq (consistent.resident_of_slot stored).1

/-- A handle is on the list just if it leads to a creature. -/
theorem mem_handles_iff (consistent : Consistent world store issued out) :
    handle ∈ store.handles ↔ ∃ creature, store.get handle = some creature :=
  Store.mem_handles_iff consistent.placed

section Settled

variable (consistent : Consistent world store issued none)
include consistent

theorem get_of_mem_creatures (listed : creature ∈ store.creatures) :
    store.get creature.handle = some creature := by
  rcases Store.mem_creatures_iff.1 listed with ⟨index, stored⟩
  exact consistent.get_of_resident
    (Store.residents_none_eq_some_iff.2 stored) (by simp)

/-- The handles stand in the order of their slots. -/
theorem pairwise_handles :
    store.handles.Pairwise fun left right => left.slot < right.slot :=
  Store.pairwise_handles consistent.placed

theorem nodup_handles : store.handles.Nodup :=
  Store.nodup_handles consistent.placed

/-- What the tiles say of the creatures is what the store says of them. -/
theorem marks_perm :
    world.marks.Perm
      (store.creatures.map fun creature =>
        (creature.position, creature.handle)) := by
  have storedNodup :
      (store.creatures.map fun creature =>
        (creature.position, creature.handle)).Nodup := by
    have handlesNodup := consistent.nodup_handles
    have names :
        store.handles =
          (store.creatures.map fun creature =>
            (creature.position, creature.handle)).map Prod.snd := by
      rw [List.map_map]
      rfl
    rw [names] at handlesNodup
    exact handlesNodup.of_map Prod.snd
  refine (List.perm_ext_iff_of_nodup (World.nodup_marks world)
    storedNodup).2 ?_
  intro given
  rcases given with ⟨position, handle⟩
  rw [World.mem_marks_iff, List.mem_map]
  constructor
  · intro occupied
    obtain ⟨creature, present, rfl, rfl⟩ :=
      consistent.settled.resolved occupied
    have stored := Store.residents_none_eq_some_iff.1 present
    exact ⟨creature, Store.mem_creatures_iff.2 ⟨_, stored⟩, rfl⟩
  · intro given
    rcases given with ⟨creature, listed, same⟩
    cases same
    have known := consistent.get_of_mem_creatures listed
    exact consistent.settled.marked (consistent.resident_of_get known).1

/-- As many tiles are occupied as creatures are stored. -/
theorem occupiedCount_eq : world.occupiedCount = store.liveCount := by
  rw [← World.length_marks, consistent.marks_perm.length_eq,
    List.length_map]
  rfl

end Settled

end Consistent

end Vivarium
