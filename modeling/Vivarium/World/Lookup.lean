import Vivarium.World

/-!
# Looking at a world

Positions on the grid correspond to places in the array of tiles, one to one.
A change of a tile is seen at its position and nowhere else.
-/

namespace Vivarium

namespace World

/-! ## Positions and places -/

theorem contains_iff {world : World} {position : Position} :
    world.contains position = true ↔
      0 ≤ position.x ∧ position.x < world.width ∧
        0 ≤ position.y ∧ position.y < world.height :=
  Extent.contains_iff

/-- Positions on the grid have a place among the tiles. -/
theorem index_lt {world : World} {position : Position}
    (onGrid : world.contains position = true) :
    world.index position < world.tiles.size := by
  have bounds := contains_iff.1 onGrid
  have column : position.x.toNat < world.width := by omega
  have row : position.y.toNat + 1 ≤ world.height := by omega
  rw [world.size_tiles]
  calc world.index position
      < position.y.toNat * world.width + world.width :=
        Nat.add_lt_add_left column _
    _ = (position.y.toNat + 1) * world.width := (Nat.succ_mul _ _).symm
    _ ≤ world.height * world.width := Nat.mul_le_mul_right _ row
    _ = world.width * world.height := Nat.mul_comm _ _

theorem positionAt_index {world : World} {position : Position}
    (onGrid : world.contains position = true) :
    world.positionAt (world.index position) = position := by
  obtain ⟨xNonneg, xBound, yNonneg, -⟩ := contains_iff.1 onGrid
  have column : position.x.toNat < world.width := by omega
  obtain ⟨x, y⟩ := position
  have remainder :
      (y.toNat * world.width + x.toNat) % world.width = x.toNat := by
    rw [Nat.mul_comm, Nat.mul_add_mod, Nat.mod_eq_of_lt column]
  have quotient :
      (y.toNat * world.width + x.toNat) / world.width = y.toNat := by
    rw [Nat.mul_comm, Nat.mul_add_div world.width_pos,
      Nat.div_eq_of_lt column, Nat.add_zero]
  simp only [positionAt, index, remainder, quotient, Position.mk.injEq]
  exact ⟨Int.toNat_of_nonneg xNonneg, Int.toNat_of_nonneg yNonneg⟩

theorem index_inj {world : World} {left right : Position}
    (leftOnGrid : world.contains left = true)
    (rightOnGrid : world.contains right = true) :
    world.index left = world.index right ↔ left = right := by
  constructor
  · intro sameIndex
    rw [← positionAt_index leftOnGrid, sameIndex,
      positionAt_index rightOnGrid]
  · rintro rfl
    rfl

/-! ## Tiles -/

theorem isSome_tile? (world : World) (position : Position) :
    (world.tile? position).isSome = world.contains position := by
  by_cases onGrid : world.contains position = true
  · simp [tile?, onGrid, Array.getElem?_eq_getElem (index_lt onGrid)]
  · simp [tile?, onGrid]

theorem tileAt_eq_error_iff {world : World} {position : Position}
    {fault : Fault} :
    world.tileAt position = .error fault ↔
      world.contains position = false ∧
        fault = (Fault.offGrid position).raised := by
  rw [← isSome_tile?]
  unfold tileAt
  cases world.tile? position <;> simp [eq_comm]

theorem tileAt_eq_ok_iff {world : World} {position : Position} {tile : Tile} :
    world.tileAt position = .ok tile ↔ world.tile? position = some tile := by
  unfold tileAt
  cases world.tile? position <;> simp

/-! ## Changes -/

theorem extent_update (world : World) (position : Position)
    (change : Tile → Tile) :
    (world.update position change).extent = world.extent := by
  unfold update
  split <;> rfl

theorem contains_update (world : World) (position other : Position)
    (change : Tile → Tile) :
    (world.update position change).contains other = world.contains other := by
  simp only [contains, extent_update]

theorem index_update (world : World) (position other : Position)
    (change : Tile → Tile) :
    (world.update position change).index other = world.index other := by
  unfold update
  split <;> rfl

/-- Off the grid there is nothing to change. -/
theorem update_eq_self {world : World} {position : Position}
    (offGrid : ¬ world.contains position = true) (change : Tile → Tile) :
    world.update position change = world :=
  if_neg offGrid

theorem tiles_update {world : World} {position : Position}
    (onGrid : world.contains position = true) (change : Tile → Tile) :
    (world.update position change).tiles =
      world.tiles.modify (world.index position) change := by
  rw [update, if_pos onGrid]

/-- A change of one tile is seen at its position and nowhere else. -/
theorem tile?_update (world : World) (position other : Position)
    (change : Tile → Tile) :
    (world.update position change).tile? other =
      if position = other then (world.tile? other).map change
      else world.tile? other := by
  by_cases changed : world.contains position = true
  · rw [tile?, tile?, contains_update, index_update, tiles_update changed,
      Array.getElem?_modify]
    by_cases onGrid : world.contains other = true
    · simp only [onGrid, if_true, index_inj changed onGrid]
    · simp [onGrid]
  · rw [update_eq_self changed]
    split
    · next same =>
      subst same
      simp [tile?, changed]
    · rfl

end World

end Vivarium
