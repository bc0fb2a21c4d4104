import Mathlib.Data.Set.Function
import Mathlib.Order.Interval.Set.Defs
import Vivarium.Proofs.Totals

/-!
# Tiles and their addresses

The rows of a grid are laid end to end, and a position is found again from its
place by quotient and remainder. So the tiles are listed row by row, each
position once and with the tile that is found there, whatever has been done to
the tiles; and a change of one tile shows at its position, in the list and in
the totals, and nowhere else.
-/

namespace Vivarium

/-! ## Rows of positions -/

/-- The positions of a grid, row by row from the north, each row from west to
east. -/
def Extent.rows (extent : Extent) : List Position :=
  (List.range extent.height.toNat).flatMap fun y : Nat =>
    (List.range extent.width.toNat).map fun x : Nat => ⟨x, y⟩

/-- The places of so many rows, laid end to end. -/
private theorem range_mul (width rows : Nat) :
    List.range (width * rows) =
      (List.range rows).flatMap fun y =>
        (List.range width).map fun x => width * y + x := by
  induction rows with
  | zero =>
      rfl
  | succ rows inductionHypothesis =>
      rw [Nat.mul_succ, List.range_add, inductionHypothesis,
        List.range_succ, List.flatMap_append, List.flatMap_singleton]

namespace World

variable {world : World} {position : Position}

private theorem positionAt_add {x : Nat} (below : x < world.width) (y : Nat) :
    world.positionAt (world.width * y + x) = ⟨x, y⟩ := by
  rw [positionAt, Nat.mul_add_mod, Nat.mod_eq_of_lt below,
    Nat.mul_add_div world.width_pos, Nat.div_eq_of_lt below, Nat.add_zero]

/-- The tiles are listed row by row. -/
theorem positions_eq_rows (world : World) :
    world.positions = world.extent.rows := by
  have decoded : ∀ y : Nat,
      (List.range world.width).map
          (world.positionAt ∘ fun x => world.width * y + x) =
        (List.range world.width).map fun x : Nat => ⟨x, y⟩ := by
    intro y
    refine List.map_congr_left ?_
    intro x listed
    exact positionAt_add (List.mem_range.1 listed) y
  simp only [positions, map_fst_entries, size_tiles, range_mul,
    List.map_flatMap, List.map_map, decoded]
  rfl

/-- Every position is listed with the tile that is found there. -/
theorem entries_eq_map (world : World) :
    world.entries = world.positions.map fun position =>
      (position, (world.tile? position).getD default) := by
  have own : ∀ entry ∈ world.entries,
      (entry.1, (world.tile? entry.1).getD default) = entry := by
    rintro ⟨position, tile⟩ member
    rw [mem_entries_iff.1 member]
    rfl
  rw [positions, List.map_map]
  exact (List.map_id _).symm.trans
    (List.map_congr_left fun entry member => (own entry member).symm)

private theorem mem_entries_iff_tileAt {tile : Tile} :
    (position, tile) ∈ world.entries ↔ world.tileAt position = .ok tile :=
  mem_entries_iff.trans tileAt_eq_ok_iff.symm

/-- Positions on the grid and places among the tiles correspond one to
one. -/
theorem bijOn_index (world : World) :
    Set.BijOn world.index world.extent.grid (Set.Iio world.tiles.size) := by
  refine ⟨?_, ?_, ?_⟩
  · intro position onGrid
    exact index_lt onGrid
  · intro left leftOnGrid right rightOnGrid same
    exact (index_inj leftOnGrid rightOnGrid).1 same
  · intro index bound
    exact ⟨world.positionAt index, contains_positionAt bound,
      index_positionAt world index⟩

/-- The tiles of a world are listed row by row, each of them under the one
address that leads to it. -/
structure Addressed (world : World) (extent : Extent) : Prop where
  contains_iff : ∀ position, world.contains position = true ↔
    0 ≤ position.x ∧ position.x < extent.width ∧
      0 ≤ position.y ∧ position.y < extent.height
  places : Set.BijOn world.index extent.grid (Set.Iio world.tiles.size)
  decoded : ∀ position, world.contains position = true →
    world.positionAt (world.index position) = position
  rows : world.positions = extent.rows
  once : world.positions.Nodup ∧
    ∀ position, position ∈ world.positions ↔ world.contains position = true
  tiles : ∀ position tile,
    (position, tile) ∈ world.entries ↔ world.tileAt position = .ok tile
  faults : ∀ position fault, world.tileAt position = .error fault ↔
    world.contains position = false ∧
      fault =
        if Figure.Short position.x ∧ Figure.Short position.y then
          .offGrid position
        else .longFigure
  occupied : world.occupiedCount =
    world.entries.countP fun entry => entry.2.isOccupied
  food : world.totalFood =
    (world.entries.map fun entry => entry.2.food).sum

theorem addressed (world : World) : world.Addressed world.extent where
  contains_iff _ := contains_iff
  places := bijOn_index world
  decoded _ := positionAt_index
  rows := positions_eq_rows world
  once := ⟨nodup_positions world, fun _ => mem_positions_iff⟩
  tiles _ _ := mem_entries_iff_tileAt
  faults position _ := by
    rw [tileAt_eq_error_iff, Fault.raised_offGrid]
  occupied := by
    rw [occupiedCount, ← Array.countP_toList, ← map_snd_entries,
      List.countP_map]
    rfl
  food := by
    rw [totalFood_eq_sum, ← map_snd_entries, List.map_map]
    rfl

end World

/-! ## One edit -/

def Tile.occupancy (tile : Tile) : Int :=
  if tile.isOccupied then 1 else 0

namespace World

private theorem occupiedCount_eq_sum (world : World) :
    (world.occupiedCount : Int) =
      (world.tiles.toList.map Tile.occupancy).sum := by
  rw [occupiedCount, ← Array.countP_toList]
  induction world.tiles.toList with
  | nil =>
      rfl
  | cons tile rest inductionHypothesis =>
      rw [List.countP_cons, List.map_cons, List.sum_cons,
        ← inductionHypothesis, Tile.occupancy]
      split <;> simp [Int.add_comm]

private theorem tileAt_update (world : World) (position other : Position)
    (change : Tile → Tile) :
    (world.update position change).tileAt other =
      if position = other then (world.tileAt other).map change
      else world.tileAt other := by
  by_cases here : position = other
  · simp only [tileAt, tile?_update, if_pos here]
    cases world.tile? other <;> rfl
  · simp only [tileAt, tile?_update, if_neg here]

theorem entries_update (world : World) (position : Position)
    (change : Tile → Tile) :
    (world.update position change).entries =
      world.entries.map fun entry =>
        (entry.1, if position = entry.1 then change entry.2 else entry.2) := by
  rw [entries_eq_map, entries_eq_map world, positions_eq_rows,
    positions_eq_rows, extent_update, List.map_map]
  refine List.map_congr_left ?_
  intro other listed
  rw [← positions_eq_rows] at listed
  obtain ⟨tile, found⟩ := exists_tile? (mem_positions_iff.1 listed)
  simp only [Function.comp_apply, tile?_update, found]
  split <;> rfl

/-- A change of one tile shows at its position, in the list and in the totals,
and nowhere else. -/
structure Edited (world : World) (position : Position)
    (change : Tile → Tile) (after : World) : Prop where
  tileAt_eq : ∀ other, after.tileAt other =
    if position = other then (world.tileAt other).map change
    else world.tileAt other
  entries_eq : after.entries = world.entries.map fun entry =>
    (entry.1, if position = entry.1 then change entry.2 else entry.2)
  occupied : ∀ tile, world.tileAt position = .ok tile →
    (after.occupiedCount : Int) =
      world.occupiedCount - tile.occupancy + (change tile).occupancy
  food : ∀ tile, world.tileAt position = .ok tile →
    after.totalFood = world.totalFood - tile.food + (change tile).food
  beyond : world.contains position = false → after = world

theorem edited_update (world : World) (position : Position)
    (change : Tile → Tile) :
    world.Edited position change (world.update position change) where
  tileAt_eq other := tileAt_update world position other change
  entries_eq := entries_update world position change
  occupied tile found := by
    rw [occupiedCount_eq_sum, occupiedCount_eq_sum,
      sum_tiles_update (tileAt_eq_ok_iff.1 found)]
  food tile found := totalFood_update (tileAt_eq_ok_iff.1 found) change
  beyond offGrid :=
    update_eq_self (Bool.eq_false_iff.1 offGrid) change

/-! ## Any number of edits -/

def edit (world : World) (edits : List (Position × (Tile → Tile))) : World :=
  edits.foldl (fun world edit => world.update edit.1 edit.2) world

end World

def Tile.edit (tile : Tile) (position : Position)
    (edits : List (Position × (Tile → Tile))) : Tile :=
  (edits.filter fun edit => edit.1 = position).foldl
    (fun tile edit => edit.2 tile) tile

namespace World

private theorem extent_edit (world : World)
    (edits : List (Position × (Tile → Tile))) :
    (world.edit edits).extent = world.extent := by
  induction edits generalizing world with
  | nil =>
      rfl
  | cons first rest inductionHypothesis =>
      exact (inductionHypothesis _).trans (extent_update world _ _)

/-- Each tile is what the edits at its own position have made of it. -/
theorem tile?_edit (world : World)
    (edits : List (Position × (Tile → Tile))) (position : Position) :
    (world.edit edits).tile? position =
      (world.tile? position).map fun tile => tile.edit position edits := by
  induction edits generalizing world with
  | nil =>
      exact Option.map_id'.symm
  | cons first rest inductionHypothesis =>
      have later := inductionHypothesis (world.update first.1 first.2)
      rw [tile?_update] at later
      refine later.trans ?_
      by_cases here : first.1 = position
      · simp [Tile.edit, here, Function.comp_def]
      · simp [Tile.edit, here]

/-- Whatever has been done to the tiles of a world, it is addressed row by row,
each tile is what the edits at its own position have made of it, and the next
edit changes one tile and no other. -/
theorem addressed_after_edits {width height : Int} (wide : 1 ≤ width)
    (high : 1 ≤ height) (food : Int)
    (edits : List (Position × (Tile → Tile))) :
    ∃ world, make width height food = .ok world ∧
      (world.edit edits).Addressed ⟨width, height⟩ ∧
      (∀ position, world.contains position = true →
        (world.edit edits).tileAt position =
          .ok (Tile.edit ⟨food, none⟩ position edits)) ∧
      ∀ position change,
        (world.edit edits).Edited position change
          ((world.edit edits).update position change) := by
  obtain ⟨world, made, extent, bare⟩ := exists_make wide high food
  have addressed := (world.edit edits).addressed
  rw [extent_edit, extent] at addressed
  refine ⟨world, made, addressed, ?_, ?_⟩
  · intro position onGrid
    obtain ⟨tile, found⟩ := exists_tile? onGrid
    rw [tileAt_eq_ok_iff, tile?_edit, found, bare.eq_of_tile? found]
    rfl
  · intro position change
    exact edited_update _ position change

/-- A position off a grid of one tile, so far off that it cannot be told. -/
theorem tileAt_longFigure :
    ∃ world, make 1 1 50 = .ok world ∧
      world.contains ⟨Figure.bound, 0⟩ = false ∧
      world.tileAt ⟨Figure.bound, 0⟩ = .error .longFigure := by
  obtain ⟨world, made, extent, -⟩ :=
    exists_make (Int.le_refl 1) (Int.le_refl 1) 50
  have beyond : world.contains ⟨Figure.bound, 0⟩ = false := by
    rw [contains, extent]
    decide +kernel
  have illegible : ¬ (Figure.Short Figure.bound ∧ Figure.Short 0) :=
    fun legible => Figure.not_short_bound legible.1
  refine ⟨world, made, beyond, (world.addressed.faults _ _).2 ⟨beyond, ?_⟩⟩
  rw [if_neg illegible]

/-- Three columns and two rows. One edit lies off the grid, and one tile is
edited twice. -/
theorem addressed_six_tiles :
    let edits : List (Position × (Tile → Tile)) :=
      [(⟨2, 0⟩, fun tile => { tile with food := tile.food - 3 }),
        (⟨0, 1⟩, fun tile => { tile with occupant := some ⟨4, 9⟩ }),
        (⟨0, 2⟩, fun tile => { tile with food := 0 }),
        (⟨2, 0⟩, fun tile => { tile with food := tile.food * 2 })]
    ((1 : Int) ≤ 3 ∧ (1 : Int) ≤ 2) ∧
      ∃ world, make 3 2 50 = .ok world ∧
        ((world.edit edits).entries.map fun entry =>
            (entry.1.x, entry.1.y, entry.2.food, entry.2.isOccupied)) =
          [(0, 0, 50, false), (1, 0, 50, false), (2, 0, 94, false),
            (0, 1, 50, true), (1, 1, 50, false), (2, 1, 50, false)] ∧
        (world.edit edits).Addressed ⟨3, 2⟩ ∧
        (∀ position, world.contains position = true →
          (world.edit edits).tileAt position =
            .ok (Tile.edit ⟨50, none⟩ position edits)) ∧
        ∀ position change,
          (world.edit edits).Edited position change
            ((world.edit edits).update position change) := by
  intro edits
  have figures :
      (make 3 2 50).map (fun world =>
          (world.edit edits).entries.map fun entry =>
            (entry.1.x, entry.1.y, entry.2.food, entry.2.isOccupied)) =
        .ok [(0, 0, 50, false), (1, 0, 50, false), (2, 0, 94, false),
          (0, 1, 50, true), (1, 1, 50, false), (2, 1, 50, false)] := by
    decide +kernel
  have wide : (1 : Int) ≤ 3 := by decide
  have high : (1 : Int) ≤ 2 := by decide
  obtain ⟨world, made, rest⟩ := addressed_after_edits wide high 50 edits
  rw [made] at figures
  exact ⟨⟨wide, high⟩, world, made, Except.ok.inj figures, rest⟩

end World

end Vivarium
