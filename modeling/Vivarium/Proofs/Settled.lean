import Vivarium.Proofs.Heredity
import Vivarium.Proofs.Residents

/-!
# Settled populations

The invariant of a population: grid and residents agree, the free list names
each vacant slot once, no resident carries a stamp that is still to be issued,
all residents are viable, and no tile owes food.
-/

namespace Vivarium

/-- The residents against the free list of their store, the number of its
slots and the next stamp. -/
structure Roster
    (residents : Nat → Option Creature) (free : List Nat)
    (count issued : Nat) : Prop where
  bounded : ∀ {index creature}, residents index = some creature →
    index < count
  nodup : free.Nodup
  mem_free : ∀ index, index ∈ free ↔
    index < count ∧ residents index = none
  stamped : ∀ {index creature}, residents index = some creature →
    creature.handle.generation < issued
  viable : ∀ {index creature}, residents index = some creature →
    creature.Viable

namespace Roster

variable {residents : Nat → Option Creature} {free : List Nat}
  {count issued index : Nat} {creature : Creature}

/-- Stamps that are used up elsewhere do no harm. -/
theorem mono (roster : Roster residents free count issued)
    {later : Nat} (notBefore : issued ≤ later) :
    Roster residents free count later :=
  { roster with
    stamped := fun present =>
      Nat.lt_of_lt_of_le (roster.stamped present) notBefore }

/-- A resident changes, but not its name. -/
theorem revise (roster : Roster residents free count issued)
    (present : residents index = some creature) {revised : Creature}
    (sameHandle : revised.handle = creature.handle)
    (viable : revised.Viable) :
    Roster (Function.update residents index (some revised)) free count
      issued where
  bounded := by
    intro other resident found
    rw [Function.update_apply] at found
    split at found
    · next same =>
      rw [same]
      exact roster.bounded present
    · exact roster.bounded found
  nodup := roster.nodup
  mem_free := by
    intro other
    rw [roster.mem_free, Function.update_apply]
    split
    · next same =>
      rw [same, present]
      simp
    · rfl
  stamped := by
    intro other resident found
    rw [Function.update_apply] at found
    split at found
    · cases found
      rw [sameHandle]
      exact roster.stamped present
    · exact roster.stamped found
  viable := by
    intro other resident found
    rw [Function.update_apply] at found
    split at found
    · cases found
      exact viable
    · exact roster.viable found

/-- The slot of a resident that leaves is the next to be used again. -/
theorem remove (roster : Roster residents free count issued)
    (present : residents index = some creature) :
    Roster (Function.update residents index none) (index :: free) count
      issued where
  bounded := by
    intro other resident found
    rw [Function.update_apply] at found
    split at found
    · cases found
    · exact roster.bounded found
  nodup := by
    refine List.nodup_cons.2 ⟨fun listed => ?_, roster.nodup⟩
    have vacant := ((roster.mem_free _).1 listed).2
    rw [present] at vacant
    cases vacant
  mem_free := by
    intro other
    rw [List.mem_cons, roster.mem_free, Function.update_apply]
    by_cases same : other = index
    · rw [if_pos same, same]
      simp [roster.bounded present]
    · rw [if_neg same]
      simp [same]
  stamped := by
    intro other resident found
    rw [Function.update_apply] at found
    split at found
    · cases found
    · exact roster.stamped found
  viable := by
    intro other resident found
    rw [Function.update_apply] at found
    split at found
    · cases found
    · exact roster.viable found

def Reserves
    (free : List Nat) (count reserved : Nat) (rest : List Nat)
    (total : Nat) : Prop :=
  free = reserved :: rest ∧ total = count ∨
    free = [] ∧ rest = [] ∧ reserved = count ∧ total = count + 1

/-- A reserved slot had no resident. -/
theorem vacant_of_reserves (roster : Roster residents free count issued)
    {reserved : Nat} {rest : List Nat} {total : Nat}
    (reserves : Reserves free count reserved rest total) :
    residents reserved = none := by
  rcases reserves with ⟨rfl, -⟩ | ⟨-, -, rfl, -⟩
  · exact ((roster.mem_free _).1 List.mem_cons_self).2
  · cases found : residents reserved with
    | none =>
        rfl
    | some creature =>
        exact absurd (roster.bounded found) (Nat.lt_irrefl reserved)

private theorem mem_rest_iff (roster : Roster residents free count issued)
    {reserved : Nat} {rest : List Nat} {total : Nat}
    (reserves : Reserves free count reserved rest total) {other : Nat} :
    other ∈ rest ↔
      other ≠ reserved ∧ other < total ∧ residents other = none := by
  rcases reserves with ⟨rfl, rfl⟩ | ⟨rfl, rfl, rfl, rfl⟩
  · have listed := roster.mem_free other
    rw [List.mem_cons] at listed
    have fresh := (List.nodup_cons.1 roster.nodup).1
    constructor
    · intro member
      refine ⟨?_, listed.1 (Or.inr member)⟩
      intro same
      subst same
      exact fresh member
    · intro given
      rcases given with ⟨different, vacant⟩
      exact (listed.2 vacant).resolve_left different
  · have listed := roster.mem_free other
    simp only [List.not_mem_nil, false_iff, not_and] at listed ⊢
    intro different below
    exact listed (by omega)

/-- A newcomer takes the slot that was reserved for it. -/
theorem add (roster : Roster residents free count issued)
    {rest : List Nat} {total : Nat}
    (reserves : Reserves free count creature.handle.slot rest total)
    (stamp : creature.handle.generation = issued)
    (viable : creature.Viable) :
    Roster
      (Function.update residents creature.handle.slot (some creature))
      rest total (issued + 1) := by
  have grown : count ≤ total ∧ creature.handle.slot < total := by
    rcases reserves with ⟨rfl, rfl⟩ | ⟨-, -, rfl, rfl⟩
    · exact
        ⟨Nat.le_refl total, ((roster.mem_free _).1 List.mem_cons_self).1⟩
    · exact ⟨Nat.le_succ _, Nat.lt_succ_self _⟩
  refine ⟨?_, ?_, ?_, ?_, ?_⟩
  · intro other resident found
    rw [Function.update_apply] at found
    split at found
    · next same =>
      rw [same]
      exact grown.2
    · exact Nat.lt_of_lt_of_le (roster.bounded found) grown.1
  · rcases reserves with ⟨rfl, -⟩ | ⟨-, rfl, -⟩
    · exact (List.nodup_cons.1 roster.nodup).2
    · exact List.nodup_nil
  · intro other
    rw [roster.mem_rest_iff reserves, Function.update_apply]
    by_cases same : other = creature.handle.slot
    · rw [if_pos same]
      simp [same]
    · rw [if_neg same]
      simp [same]
  · intro other resident found
    rw [Function.update_apply] at found
    split at found
    · cases found
      rw [stamp]
      exact Nat.lt_succ_self issued
    · exact Nat.lt_succ_of_lt (roster.stamped found)
  · intro other resident found
    rw [Function.update_apply] at found
    split at found
    · cases found
      exact viable
    · exact roster.viable found

end Roster

/-- A population that is in order. -/
structure Settled
    (world : World) (residents : Nat → Option Creature)
    (free : List Nat) (count issued : Nat) : Prop
    extends Occupancy world residents,
      Roster residents free count issued where
  fed : ∀ {position tile}, world.tile? position = some tile → 0 ≤ tile.food

namespace Settled

variable {world : World} {residents : Nat → Option Creature}
  {free : List Nat} {count issued index : Nat} {creature : Creature}

/-- Before anybody has come. -/
theorem nobody
    (unmarked : ∀ position, world.occupant? position = none)
    (fed : ∀ {position tile}, world.tile? position = some tile →
      0 ≤ tile.food) :
    Settled world (fun _ => none) [] 0 issued where
  slot_eq := nofun
  marked := nofun
  resolved := by
    intro position handle occupied
    rw [unmarked] at occupied
    cases occupied
  bounded := nofun
  nodup := List.nodup_nil
  mem_free := by simp
  stamped := nofun
  viable := nofun
  fed := fed

private theorem fed_setOccupant
    (fed : ∀ {position tile}, world.tile? position = some tile →
      0 ≤ tile.food)
    {position other : Position} {occupant : Option Handle} {tile : Tile}
    (found : (world.setOccupant position occupant).tile? other = some tile) :
    0 ≤ tile.food := by
  rcases World.food_setOccupant found with ⟨before, foundBefore, sameFood⟩
  rw [← sameFood]
  exact fed foundBefore

theorem revise (settled : Settled world residents free count issued)
    (present : residents index = some creature) {revised : Creature}
    (sameHandle : revised.handle = creature.handle)
    (samePosition : revised.position = creature.position)
    (viable : revised.Viable) :
    Settled world (Function.update residents index (some revised)) free count
      issued where
  toOccupancy := settled.toOccupancy.revise present sameHandle samePosition
  toRoster := settled.toRoster.revise present sameHandle viable
  fed := settled.fed

theorem relocate (settled : Settled world residents free count issued)
    (present : residents index = some creature) {target : Position}
    (onGrid : world.contains target = true)
    (unoccupied : world.occupant? target = none) :
    Settled
      ((world.setOccupant creature.position none).setOccupant target
        (some creature.handle))
      (Function.update residents index
        (some { creature with position := target }))
      free count issued where
  toOccupancy := settled.toOccupancy.relocate present onGrid unoccupied
  toRoster := by
    have viable := settled.viable present
    exact settled.toRoster.revise present rfl
      ⟨viable.program, viable.energy, viable.sensors, viable.diet⟩
  fed := fed_setOccupant (fed_setOccupant settled.fed)

theorem remove (settled : Settled world residents free count issued)
    (present : residents index = some creature) :
    Settled (world.setOccupant creature.position none)
      (Function.update residents index none) (index :: free) count
      issued where
  toOccupancy := settled.toOccupancy.remove present
  toRoster := settled.toRoster.remove present
  fed := fed_setOccupant settled.fed

theorem add (settled : Settled world residents free count issued)
    {rest : List Nat} {total : Nat}
    (reserves : Roster.Reserves free count creature.handle.slot rest total)
    (stamp : creature.handle.generation = issued)
    (onGrid : world.contains creature.position = true)
    (unoccupied : world.occupant? creature.position = none)
    (viable : creature.Viable) :
    Settled (world.setOccupant creature.position (some creature.handle))
      (Function.update residents creature.handle.slot (some creature))
      rest total (issued + 1) where
  toOccupancy :=
    settled.toOccupancy.add
      (settled.toRoster.vacant_of_reserves reserves) onGrid unoccupied
  toRoster := settled.toRoster.add reserves stamp viable
  fed := fed_setOccupant settled.fed

/-- Food is put on a tile, or taken from one that has enough of it. -/
theorem feed (settled : Settled world residents free count issued)
    {position : Position} {food : Tile → Int}
    (enough : ∀ {tile}, world.tile? position = some tile → 0 ≤ food tile) :
    Settled
      (world.update position fun tile => { tile with food := food tile })
      residents free count issued where
  toOccupancy :=
    settled.toOccupancy.of_occupant?_eq
      (World.occupant?_update_food position food)
  toRoster := settled.toRoster
  fed := by
    intro other tile found
    rw [World.tile?_update] at found
    split at found
    · next same =>
      subst same
      rcases Option.map_eq_some_iff.1 found with ⟨before, foundBefore, rfl⟩
      exact enough foundBefore
    · exact settled.fed found

end Settled

end Vivarium
