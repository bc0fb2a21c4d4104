import Mathlib.Algebra.BigOperators.Group.List.Basic
import Mathlib.Algebra.Ring.Int.Defs
import Vivarium.Proofs.Grid
import Vivarium.Store.Lookup

/-!
# Totals

Any measure of the tiles of a world, such as its food, and of the creatures of
a store, summed up. What one write changes of a sum is the difference between
the new entry and the old one.
-/

namespace Vivarium

private theorem sum_map_set {α : Type} (items : List α) (measure : α → Int)
    {index : Nat} {old : α} (found : items[index]? = some old) (new : α) :
    ((items.set index new).map measure).sum =
      (items.map measure).sum - measure old + measure new := by
  rcases List.getElem?_eq_some_iff.1 found with ⟨bound, same⟩
  have inside : index < (items.map measure).length := by
    rw [List.length_map]
    exact bound
  rw [List.map_set, List.sum_set', dif_pos inside, List.getElem_map, same]
  omega

/-! ## Tiles -/

namespace World

variable {world : World}

/-- A change of one tile, seen in any measure of the tiles. -/
theorem sum_tiles_update {position : Position} {tile : Tile}
    (found : world.tile? position = some tile) (change : Tile → Tile)
    (measure : Tile → Int) :
    ((world.update position change).tiles.toList.map measure).sum =
      (world.tiles.toList.map measure).sum - measure tile +
        measure (change tile) := by
  have onGrid := contains_of_tile? found
  rw [tile?, if_pos onGrid, ← Array.getElem?_toList] at found
  have modified :
      world.tiles.toList.modify (world.index position) change =
        world.tiles.toList.set (world.index position) (change tile) := by
    rw [List.modify_eq_set_getElem?, found]
    rfl
  rw [tiles_update onGrid, Array.toList_modify, modified,
    sum_map_set _ _ found]

theorem totalFood_eq_sum (world : World) :
    world.totalFood = (world.tiles.toList.map Tile.food).sum := by
  rw [totalFood, ← Array.foldl_toList, List.sum_eq_foldl, List.foldl_map]

theorem totalFood_update {position : Position} {tile : Tile}
    (found : world.tile? position = some tile) (change : Tile → Tile) :
    (world.update position change).totalFood =
      world.totalFood - tile.food + (change tile).food := by
  rw [totalFood_eq_sum, totalFood_eq_sum, sum_tiles_update found]

/-- Food that is put on a tile, or taken from it, shows in the total. -/
theorem totalFood_addFood {position : Position}
    (onGrid : world.contains position = true) (amount : Int) :
    (world.update position fun tile =>
        { tile with food := tile.food + amount }).totalFood =
      world.totalFood + amount := by
  rcases exists_tile? onGrid with ⟨tile, found⟩
  rw [totalFood_update found]
  show world.totalFood - tile.food + (tile.food + amount) = _
  omega

@[simp]
theorem totalFood_setOccupant (world : World) (position : Position)
    (occupant : Option Handle) :
    (world.setOccupant position occupant).totalFood = world.totalFood := by
  cases found : world.tile? position with
  | some tile =>
      rw [setOccupant, totalFood_update found]
      exact Int.sub_add_cancel _ _
  | none =>
      have offGrid : ¬ world.contains position = true := by
        rw [← isSome_tile?, found]
        exact Bool.false_ne_true
      rw [setOccupant, update_eq_self offGrid]

end World

/-! ## Creatures -/

namespace Slot

def share (measure : Creature → Int) (held : Slot) : Int :=
  (held.creature?.map measure).getD 0

end Slot

namespace Store

variable {store : Store} {measure : Creature → Int} {handle : Handle}
  {creature : Creature}

def total (store : Store) (measure : Creature → Int) : Int :=
  (store.creatures.map measure).sum

private theorem total_eq_sum_shares (store : Store) (measure : Creature → Int) :
    store.total measure =
      (store.slots.toList.map (Slot.share measure)).sum := by
  unfold total creatures
  induction store.slots.toList with
  | nil =>
      rfl
  | cons held rest inductionHypothesis =>
      rw [List.map_cons, List.sum_cons, ← inductionHypothesis]
      cases held with
      | stored creature =>
          rfl
      | vacant | checkedOut handle =>
          exact (Int.zero_add _).symm

/-- A write to one slot. -/
theorem total_write {index : Nat} (bound : index < store.count)
    (held : Slot) (free : List Nat) :
    total ⟨store.slots.setIfInBounds index held, free⟩ measure =
      store.total measure - (store.slot index).share measure +
        held.share measure := by
  have inside : index < store.slots.size := bound
  have found : store.slots.toList[index]? = some (store.slot index) := by
    rw [Array.getElem?_toList, slot, Array.getD_eq_getD_getElem?,
      Array.getElem?_eq_getElem inside]
    rfl
  rw [total_eq_sum_shares, total_eq_sum_shares,
    Array.toList_setIfInBounds, sum_map_set _ _ found]

theorem total_set (bound : handle.slot < store.count)
    (creature : Creature) :
    (store.set handle creature).total measure =
      store.total measure - (store.slot handle.slot).share measure +
        measure creature :=
  total_write bound (.stored creature) store.free

theorem total_take (found : store.get handle = some creature) :
    (store.take handle).2.total measure =
      store.total measure - measure creature := by
  have share : (store.slot handle.slot).share measure = measure creature := by
    rw [(get_eq_some_iff.1 found).1]
    rfl
  rw [← share]
  simp only [take, found]
  exact (total_write (lt_count_of_get found) _ _).trans (Int.add_zero _)

theorem total_release (kept : store.holds handle = true) :
    (store.release handle).2.total measure =
      store.total measure - (store.slot handle.slot).share measure := by
  simp only [release, kept, if_true]
  exact (total_write (lt_count_of_holds kept) _ _).trans (Int.add_zero _)

theorem total_allocate (store : Store) (issued : Nat) :
    (store.allocate issued).2.1.total measure = store.total measure := by
  unfold allocate
  split
  · rfl
  · rw [total_eq_sum_shares, total_eq_sum_shares, Array.toList_push,
      List.map_append, List.sum_append]
    exact Int.add_zero _

end Store

end Vivarium
