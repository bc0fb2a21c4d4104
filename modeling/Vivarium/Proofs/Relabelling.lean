import Mathlib.Data.List.Nodup
import Mathlib.Data.List.Perm.Subperm
import Vivarium.Proofs.Totals

/-!
# Relabelling

Positions under other names and stamps under other numbers. A world and a
store are the image of others when they hold the same under the new labels:
the same slots, in the same order, and the same food. What operations do to
the one they do to the other.
-/

namespace Vivarium

/-- Another name for each position and another number for each stamp. -/
structure Relabelling where
  move : Position → Position
  stamp : Nat → Nat

namespace Relabelling

variable (label : Relabelling)

def handle (handle : Handle) : Handle :=
  { handle with generation := label.stamp handle.generation }

def tile (tile : Tile) : Tile :=
  { tile with occupant := tile.occupant.map label.handle }

def creature (creature : Creature) : Creature :=
  { creature with
    handle := label.handle creature.handle
    position := label.move creature.position }

def slot : Slot → Slot
  | .vacant => .vacant
  | .stored creature => .stored (label.creature creature)
  | .checkedOut handle => .checkedOut (label.handle handle)

/-- New labels that fit a grid: positions on it keep their distances, and
nothing is confused. -/
structure Fits (extent : Extent) : Prop where
  injective : ∀ {left right}, extent.contains left = true →
    extent.contains right = true → label.move left = label.move right →
      left = right
  neighbor : ∀ {position}, extent.contains position = true →
    ∀ direction : Direction,
      extent.neighbor (label.move position) direction.offset =
        label.move (extent.neighbor position direction.offset)
  stamps : Function.Injective label.stamp

variable {label} {extent : Extent}

@[simp]
theorem slot_handle (handle : Handle) :
    (label.handle handle).slot = handle.slot :=
  rfl

@[simp]
theorem energy_creature (creature : Creature) :
    (label.creature creature).energy = creature.energy :=
  rfl

@[simp]
theorem metabolism_creature (creature : Creature) :
    (label.creature creature).metabolism = creature.metabolism :=
  rfl

@[simp]
theorem program_creature (creature : Creature) :
    (label.creature creature).program = creature.program :=
  rfl

@[simp]
theorem isOccupied_tile (tile : Tile) :
    (label.tile tile).isOccupied = tile.isOccupied :=
  Option.isSome_map

@[simp]
theorem creature?_slot (held : Slot) :
    (label.slot held).creature? = held.creature?.map label.creature := by
  cases held <;> rfl

theorem Fits.handle_inj (fits : label.Fits extent) {left right : Handle} :
    label.handle left = label.handle right ↔ left = right := by
  constructor
  · intro same
    rcases left with ⟨slot, generation⟩
    rcases right with ⟨slot', generation'⟩
    simp only [handle, Handle.mk.injEq] at same
    rw [same.1, fits.stamps same.2]
  · rintro rfl
    rfl

end Relabelling

/-! ## Worlds -/

namespace World

variable {label : Relabelling} {world world' : World} {extent : Extent}
  {position : Position}

structure Image (label : Relabelling) (world world' : World) : Prop where
  extent : world'.extent = world.extent
  tile : ∀ position, world.contains position = true →
    world'.tile? (label.move position) =
      (world.tile? position).map label.tile

theorem Image.update (image : Image label world world')
    (fits : label.Fits world.extent)
    (onGrid : world.contains position = true) {change change' : Tile → Tile}
    (corresponding : ∀ tile,
      change' (label.tile tile) = label.tile (change tile)) :
    Image label (world.update position change)
      (world'.update (label.move position) change') where
  extent := by
    rw [extent_update, extent_update, image.extent]
  tile := by
    intro other otherOnGrid
    rw [contains_update] at otherOnGrid
    rw [tile?_update, tile?_update, image.tile other otherOnGrid]
    by_cases same : position = other
    · subst same
      rw [if_pos rfl, if_pos rfl]
      cases world.tile? position with
      | none =>
          rfl
      | some tile =>
          simp [corresponding]
    · have apart : label.move position ≠ label.move other :=
        fun confused => same (fits.injective onGrid otherOnGrid confused)
      rw [if_neg same, if_neg apart]

private theorem length_entries (world : World) :
    (world.entries.length : Int) = world.extent.area := by
  rw [entries, List.length_map, List.length_zipIdx, Array.length_toList,
    world.size_tiles]
  exact Int.natCast_mul _ _

/-- The same tiles, if perhaps in another order. -/
theorem Image.entries_perm (image : Image label world world')
    (fits : label.Fits world.extent) :
    (world.entries.map fun entry =>
      (label.move entry.1, label.tile entry.2)).Perm world'.entries := by
  have distinct :
      ((world.entries.map fun entry =>
        (label.move entry.1, label.tile entry.2)).map Prod.fst).Nodup := by
    have positions :
        (world.entries.map fun entry =>
          (label.move entry.1, label.tile entry.2)).map Prod.fst =
          (world.entries.map Prod.fst).map label.move := by
      rw [List.map_map, List.map_map]
      rfl
    rw [positions]
    refine (nodup_positions world).map_on ?_
    intro left leftListed right rightListed same
    rcases List.mem_map.1 leftListed with ⟨leftEntry, leftMember, rfl⟩
    rcases List.mem_map.1 rightListed with ⟨rightEntry, rightMember, rfl⟩
    exact fits.injective
      (contains_of_tile? (mem_entries_iff.1 leftMember))
      (contains_of_tile? (mem_entries_iff.1 rightMember)) same
  have included :
      (world.entries.map fun entry =>
        (label.move entry.1, label.tile entry.2)) ⊆ world'.entries := by
    intro entry listed
    rcases List.mem_map.1 listed with ⟨⟨position, tile⟩, member, rfl⟩
    have found := mem_entries_iff.1 member
    refine mem_entries_iff.2 ?_
    rw [image.tile position (contains_of_tile? found), found]
    rfl
  refine (List.subperm_of_subset distinct.of_map included).perm_of_length_le ?_
  have length := length_entries world
  have length' := length_entries world'
  rw [image.extent] at length'
  rw [List.length_map]
  omega

theorem Image.occupiedCount_eq (image : Image label world world')
    (fits : label.Fits world.extent) :
    world'.occupiedCount = world.occupiedCount := by
  have count : ∀ world : World,
      world.occupiedCount =
        world.entries.countP fun entry => entry.2.isOccupied := by
    intro world
    rw [occupiedCount, ← Array.countP_toList, ← map_snd_entries,
      List.countP_map]
    rfl
  rw [count, count, ← (image.entries_perm fits).countP_eq, List.countP_map]
  simp [Function.comp_def]

theorem Image.totalFood_eq (image : Image label world world')
    (fits : label.Fits world.extent) :
    world'.totalFood = world.totalFood := by
  have total : ∀ world : World,
      world.totalFood =
        (world.entries.map fun entry => entry.2.food).sum := by
    intro world
    rw [totalFood_eq_sum, ← map_snd_entries, List.map_map]
    rfl
  rw [total, total, ← ((image.entries_perm fits).map _).sum_eq, List.map_map]
  rfl

end World

/-! ## Stores -/

namespace Store

variable {label : Relabelling} {store store' : Store} {extent : Extent}
  {handle : Handle} {creature : Creature}

structure Image (label : Relabelling) (store store' : Store) : Prop where
  count : store'.count = store.count
  slot : ∀ index, store'.slot index = label.slot (store.slot index)
  free : store'.free = store.free

theorem Image.write (image : Image label store store') (index : Nat)
    (held : Slot) {free free' : List Nat} (sameFree : free' = free) :
    Image label ⟨store.slots.setIfInBounds index held, free⟩
      ⟨store'.slots.setIfInBounds index (label.slot held), free'⟩ := by
  refine ⟨?_, ?_, sameFree⟩
  · simp only [Store.count, Array.size_setIfInBounds]
    exact image.count
  · intro other
    by_cases bound : index < store.count
    · have bound' : index < store'.count := by
        rw [image.count]
        exact bound
      rw [slot_setIfInBounds bound, slot_setIfInBounds bound', image.slot]
      split <;> rfl
    · have beyond : store.count ≤ index := Nat.not_lt.1 bound
      have beyond' : store'.count ≤ index := by
        rw [image.count]
        exact beyond
      rw [Array.setIfInBounds_eq_of_size_le beyond,
        Array.setIfInBounds_eq_of_size_le beyond']
      exact image.slot other

theorem Image.set (image : Image label store store') (handle : Handle)
    (creature : Creature) :
    Image label (store.set handle creature)
      (store'.set (label.handle handle) (label.creature creature)) :=
  image.write handle.slot (.stored creature) image.free

theorem Image.get (image : Image label store store')
    (fits : label.Fits extent) (handle : Handle) :
    store'.get (label.handle handle) =
      (store.get handle).map label.creature := by
  rw [Store.get, Store.get, Relabelling.slot_handle, image.slot]
  cases store.slot handle.slot with
  | vacant | checkedOut holder =>
      rfl
  | stored creature =>
      by_cases same : creature.handle = handle
      · simp [Relabelling.slot, Relabelling.creature, same]
      · have apart :
            label.handle creature.handle ≠ label.handle handle :=
          fun confused => same (fits.handle_inj.1 confused)
        simp [Relabelling.slot, Relabelling.creature, same, apart]

theorem Image.isOut (image : Image label store store')
    (fits : label.Fits extent) (handle : Handle) :
    store'.isOut (label.handle handle) = store.isOut handle := by
  rw [Store.isOut, Store.isOut, Relabelling.slot_handle, image.slot]
  cases store.slot handle.slot <;>
    simp [Relabelling.slot, fits.handle_inj]

theorem Image.holds (image : Image label store store')
    (fits : label.Fits extent) (handle : Handle) :
    store'.holds (label.handle handle) = store.holds handle := by
  rw [Store.holds, Store.holds, image.get fits, image.isOut fits,
    Option.isSome_map]

theorem Image.take (image : Image label store store')
    (fits : label.Fits extent) (handle : Handle) :
    Image label (store.take handle).2
      (store'.take (label.handle handle)).2 := by
  rw [Store.take, Store.take, image.get fits]
  cases store.get handle with
  | none =>
      exact image
  | some creature =>
      exact image.write handle.slot (.checkedOut handle) image.free

theorem Image.release (image : Image label store store')
    (fits : label.Fits extent) (handle : Handle) :
    Image label (store.release handle).2
      (store'.release (label.handle handle)).2 := by
  rw [Store.release, Store.release, image.holds fits]
  by_cases kept : store.holds handle = true
  · rw [if_pos kept, if_pos kept]
    refine image.write handle.slot .vacant ?_
    rw [image.free]
    rfl
  · rw [if_neg kept, if_neg kept]
    exact image

theorem Image.modify (image : Image label store store')
    (fits : label.Fits extent) (handle : Handle)
    {change : Creature → Creature}
    (blind : ∀ creature,
      change (label.creature creature) = label.creature (change creature)) :
    Image label (store.modify handle change)
      (store'.modify (label.handle handle) change) := by
  rw [Store.modify, Store.modify, image.get fits]
  cases store.get handle with
  | none =>
      exact image
  | some creature =>
      simp only [Option.map_some, blind]
      exact image.set handle _

/-- A reservation is the same one, under the stamp that is next. -/
theorem Image.allocate (image : Image label store store') (issued : Nat) :
    (store'.allocate (label.stamp issued)).1 =
        label.handle (store.allocate issued).1 ∧
      Image label (store.allocate issued).2.1
        (store'.allocate (label.stamp issued)).2.1 := by
  have slots : ∀ index,
      (store'.allocate (label.stamp issued)).2.1.slot index =
        label.slot ((store.allocate issued).2.1.slot index) := by
    intro index
    rw [slot_allocate, slot_allocate, image.slot]
  have free := image.free
  unfold Store.allocate at slots ⊢
  cases listed : store.free with
  | nil =>
      rw [listed] at free
      simp only [listed, free] at slots ⊢
      refine ⟨?_, ?_, slots, rfl⟩
      · show Handle.mk store'.count _ = _
        rw [image.count]
        rfl
      · simp only [Store.count, Array.size_push]
        exact congrArg Nat.succ image.count
  | cons index rest =>
      rw [listed] at free
      simp only [listed, free] at slots ⊢
      exact ⟨rfl, image.count, slots, rfl⟩

theorem Image.creatures (image : Image label store store') :
    store'.creatures = store.creatures.map label.creature := by
  rw [creatures_eq, creatures_eq, List.map_filterMap, image.count]
  simp [image.slot]

theorem Image.handles (image : Image label store store') :
    store'.handles = store.handles.map label.handle := by
  rw [Store.handles, Store.handles, image.creatures, List.map_map,
    List.map_map]
  rfl

/-! ### Creatures on the grid -/

def Grounded (store : Store) (extent : Extent) : Prop :=
  ∀ index creature, store.slot index = .stored creature →
    extent.contains creature.position = true

theorem Grounded.of_get (grounded : store.Grounded extent)
    (found : store.get handle = some creature) :
    extent.contains creature.position = true :=
  grounded _ _ (get_eq_some_iff.1 found).1

theorem Grounded.write (grounded : store.Grounded extent) (index : Nat)
    {held : Slot} (free : List Nat)
    (onGrid : ∀ creature, held = .stored creature →
      extent.contains creature.position = true) :
    Grounded ⟨store.slots.setIfInBounds index held, free⟩ extent := by
  intro other creature stored
  by_cases bound : index < store.count
  · rw [slot_setIfInBounds bound] at stored
    split at stored
    · exact onGrid creature stored
    · exact grounded other creature stored
  · have beyond : store.count ≤ index := Nat.not_lt.1 bound
    rw [Array.setIfInBounds_eq_of_size_le beyond] at stored
    exact grounded other creature stored

theorem Grounded.set (grounded : store.Grounded extent)
    (onGrid : extent.contains creature.position = true) (handle : Handle) :
    (store.set handle creature).Grounded extent := by
  refine grounded.write handle.slot store.free ?_
  intro other same
  cases same
  exact onGrid

theorem Grounded.take (grounded : store.Grounded extent) (handle : Handle) :
    (store.take handle).2.Grounded extent := by
  unfold Store.take
  cases store.get handle with
  | none =>
      exact grounded
  | some creature =>
      exact grounded.write handle.slot store.free nofun

theorem Grounded.release (grounded : store.Grounded extent)
    (handle : Handle) : (store.release handle).2.Grounded extent := by
  unfold Store.release
  split
  · exact grounded.write handle.slot _ nofun
  · exact grounded

theorem Grounded.modify (grounded : store.Grounded extent) (handle : Handle)
    {change : Creature → Creature}
    (still : ∀ creature, (change creature).position = creature.position) :
    (store.modify handle change).Grounded extent := by
  unfold Store.modify
  cases found : store.get handle with
  | none =>
      exact grounded
  | some creature =>
      refine grounded.set ?_ handle
      rw [still]
      exact grounded.of_get found

theorem Grounded.allocate (grounded : store.Grounded extent) (issued : Nat) :
    (store.allocate issued).2.1.Grounded extent := by
  intro index creature stored
  rw [slot_allocate] at stored
  exact grounded index creature stored

end Store

end Vivarium
