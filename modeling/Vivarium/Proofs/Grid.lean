import Mathlib.Data.List.Sigma
import Mathlib.Data.Set.Defs
import Vivarium.Sensors
import Vivarium.World.Lookup

/-!
# The grid as a map of occupants

A world read as a map from positions to occupants, the torus steps that stay
on it, the list of its tiles, in which every position stands once, and what a
new world looks like.
-/

namespace Vivarium

/-! ## Steps on the torus -/

/-- A step of at most one tile along each axis. -/
def Offset.Single (offset : Offset) : Prop :=
  (-1 ≤ offset.dx ∧ offset.dx ≤ 1) ∧ (-1 ≤ offset.dy ∧ offset.dy ≤ 1)

theorem Direction.single_offset (direction : Direction) :
    direction.offset.Single := by
  cases direction <;> simp [Offset.Single, offset]

namespace Extent

def grid (extent : Extent) : Set Position :=
  {position | extent.contains position = true}

theorem wrapCoordinate_mem
    {value bound step : Int}
    (nonneg : 0 ≤ value) (below : value < bound)
    (single : -1 ≤ step ∧ step ≤ 1) :
    0 ≤ wrapCoordinate (value + step) bound ∧
      wrapCoordinate (value + step) bound < bound := by
  unfold wrapCoordinate
  split
  · omega
  · split <;> omega

theorem contains_neighbor
    {extent : Extent} {position : Position} {offset : Offset}
    (onGrid : extent.contains position = true) (single : offset.Single) :
    extent.contains (extent.neighbor position offset) = true := by
  rcases contains_iff.1 onGrid with ⟨xNonneg, xBelow, yNonneg, yBelow⟩
  have column := wrapCoordinate_mem xNonneg xBelow single.1
  have row := wrapCoordinate_mem yNonneg yBelow single.2
  exact contains_iff.2 ⟨column.1, column.2, row.1, row.2⟩

end Extent

namespace World

variable {world : World}

theorem contains_neighbor
    {position : Position} (onGrid : world.contains position = true)
    (direction : Direction) :
    world.contains (world.neighbor position direction.offset) = true :=
  Extent.contains_neighbor onGrid direction.single_offset

theorem exists_tile?
    {position : Position} (onGrid : world.contains position = true) :
    ∃ tile, world.tile? position = some tile :=
  Option.isSome_iff_exists.1 <| by rw [isSome_tile?, onGrid]

theorem contains_of_tile?
    {position : Position} {tile : Tile}
    (found : world.tile? position = some tile) :
    world.contains position = true := by
  rw [← isSome_tile?, found]
  rfl

/-! ## Occupants -/

def occupant? (world : World) (position : Position) : Option Handle :=
  (world.tile? position).bind Tile.occupant

theorem occupant?_of_tile?
    {position : Position} {tile : Tile}
    (found : world.tile? position = some tile) :
    world.occupant? position = tile.occupant := by
  rw [occupant?, found]
  rfl

theorem isOccupied_of_tile?
    {position : Position} {tile : Tile}
    (found : world.tile? position = some tile) :
    tile.isOccupied = (world.occupant? position).isSome := by
  rw [occupant?_of_tile? found]
  rfl

theorem contains_of_occupant?
    {position : Position} {handle : Handle}
    (occupied : world.occupant? position = some handle) :
    world.contains position = true := by
  rcases Option.bind_eq_some_iff.1 occupied with ⟨tile, found, -⟩
  exact contains_of_tile? found

theorem occupant?_setOccupant
    {position : Position} (onGrid : world.contains position = true)
    (occupant : Option Handle) (other : Position) :
    (world.setOccupant position occupant).occupant? other =
      if position = other then occupant else world.occupant? other := by
  rcases exists_tile? onGrid with ⟨tile, found⟩
  rw [occupant?, setOccupant, tile?_update]
  by_cases same : position = other
  · subst same
    rw [if_pos rfl, if_pos rfl, found]
    rfl
  · rw [if_neg same, if_neg same]
    rfl

/-- A change of food moves nobody. -/
theorem occupant?_update_food
    (position : Position) (food : Tile → Int) (other : Position) :
    (world.update position fun tile =>
        { tile with food := food tile }).occupant? other =
      world.occupant? other := by
  rw [occupant?, tile?_update]
  split
  · rw [occupant?]
    cases world.tile? other <;> rfl
  · rfl

theorem contains_setOccupant
    (position : Position) (occupant : Option Handle) (other : Position) :
    (world.setOccupant position occupant).contains other =
      world.contains other :=
  contains_update world position other _

/-! ## Food -/

theorem food_setOccupant
    {position other : Position} {occupant : Option Handle} {tile : Tile}
    (found : (world.setOccupant position occupant).tile? other = some tile) :
    ∃ before, world.tile? other = some before ∧
      before.food = tile.food := by
  rw [setOccupant, tile?_update] at found
  split at found
  · rcases Option.map_eq_some_iff.1 found with ⟨before, foundBefore, rfl⟩
    exact ⟨before, foundBefore, rfl⟩
  · exact ⟨tile, found, rfl⟩

/-! ## All tiles -/

theorem contains_positionAt
    {index : Nat} (bound : index < world.tiles.size) :
    world.contains (world.positionAt index) = true := by
  rw [world.size_tiles] at bound
  have column : index % world.width < world.width :=
    Nat.mod_lt index world.width_pos
  have row : index / world.width < world.height :=
    Nat.div_lt_of_lt_mul bound
  exact contains_iff.2
    ⟨Int.natCast_nonneg _, Int.ofNat_lt.2 column,
      Int.natCast_nonneg _, Int.ofNat_lt.2 row⟩

theorem index_positionAt (world : World) (index : Nat) :
    world.index (world.positionAt index) = index := by
  have parts := Nat.div_add_mod index world.width
  simp only [World.index, positionAt, Int.toNat_natCast]
  rw [Nat.mul_comm]
  exact parts

theorem mem_entries_iff
    {position : Position} {tile : Tile} :
    (position, tile) ∈ world.entries ↔
      world.tile? position = some tile := by
  simp only [entries, List.mem_map, Prod.mk.injEq, Prod.exists,
    List.mk_mem_zipIdx_iff_getElem?, Array.getElem?_toList]
  constructor
  · intro given
    rcases given with ⟨held, index, found, rfl, rfl⟩
    rcases Array.getElem?_eq_some_iff.1 found with ⟨bound, -⟩
    rw [tile?, if_pos (contains_positionAt bound), index_positionAt, found]
  · intro found
    have onGrid := contains_of_tile? found
    rw [tile?, if_pos onGrid] at found
    exact ⟨tile, world.index position, found, positionAt_index onGrid, rfl⟩

theorem map_snd_entries (world : World) :
    world.entries.map Prod.snd = world.tiles.toList := by
  rw [entries, List.map_map]
  exact List.zipIdx_map_fst 0 world.tiles.toList

/-- The positions are those of all places, in their order. -/
theorem map_fst_entries (world : World) :
    world.entries.map Prod.fst =
      (List.range world.tiles.size).map world.positionAt := by
  rw [entries, List.map_map, List.range_eq_range', ← Array.length_toList,
    ← List.zipIdx_map_snd 0 world.tiles.toList, List.map_map]
  rfl

theorem nodup_positions (world : World) :
    (world.entries.map Prod.fst).Nodup := by
  rw [map_fst_entries]
  refine List.nodup_range.map_on ?_
  intro left _ right _ same
  rw [← index_positionAt world left, same, index_positionAt]

def positions (world : World) : List Position :=
  world.entries.map Prod.fst

theorem mem_positions_iff {position : Position} :
    position ∈ world.positions ↔ world.contains position = true := by
  rw [positions, List.mem_map]
  constructor
  · rintro ⟨⟨_, tile⟩, member, rfl⟩
    exact contains_of_tile? (mem_entries_iff.1 member)
  · intro onGrid
    rcases exists_tile? onGrid with ⟨tile, found⟩
    exact ⟨(position, tile), mem_entries_iff.2 found, rfl⟩

/-! ## Occupied tiles -/

/-- The occupied positions with the handles on them, row by row. -/
def marks (world : World) : List (Position × Handle) :=
  world.entries.filterMap fun (position, tile) =>
    tile.occupant.map fun handle => (position, handle)

theorem mem_marks_iff {position : Position} {handle : Handle} :
    (position, handle) ∈ world.marks ↔
      world.occupant? position = some handle := by
  simp only [marks, List.mem_filterMap, Prod.exists, Option.map_eq_some_iff,
    Prod.mk.injEq, occupant?, Option.bind_eq_some_iff]
  constructor
  · intro given
    rcases given with ⟨_, tile, member, _, occupied, rfl, rfl⟩
    exact ⟨tile, mem_entries_iff.1 member, occupied⟩
  · intro given
    rcases given with ⟨tile, found, occupied⟩
    exact ⟨position, tile, mem_entries_iff.2 found, handle, occupied, rfl,
      rfl⟩

/-- The marks stand in the order of the occupied tiles. -/
theorem map_fst_marks (world : World) :
    world.marks.map Prod.fst =
      (world.entries.filter fun entry => entry.2.isOccupied).map
        Prod.fst := by
  unfold marks
  induction world.entries with
  | nil =>
      rfl
  | cons entry rest inductionHypothesis =>
      rcases entry with ⟨position, tile⟩
      cases occupied : tile.occupant with
      | none =>
          have vacant : tile.isOccupied = false := by
            rw [Tile.isOccupied, occupied]
            rfl
          simp only [List.filterMap_cons, occupied, Option.map_none,
            List.filter_cons, vacant, Bool.false_eq_true, if_false]
          exact inductionHypothesis
      | some handle =>
          have marked : tile.isOccupied = true := by
            rw [Tile.isOccupied, occupied]
            rfl
          simp only [List.filterMap_cons, occupied, Option.map_some,
            List.filter_cons, marked, if_true, List.map_cons]
          rw [inductionHypothesis]

theorem nodup_marks (world : World) : world.marks.Nodup := by
  have positionsNodup : (world.marks.map Prod.fst).Nodup := by
    rw [map_fst_marks]
    exact (nodup_positions world).sublist (List.filter_sublist.map Prod.fst)
  exact positionsNodup.of_map Prod.fst

theorem length_marks (world : World) :
    world.marks.length = world.occupiedCount := by
  have sameLength := congrArg List.length (map_fst_marks world)
  rw [List.length_map, List.length_map] at sameLength
  rw [sameLength, ← List.countP_eq_length_filter, occupiedCount,
    ← Array.countP_toList, ← map_snd_entries, List.countP_map]
  rfl

/-! ## New worlds -/

def Bare (world : World) (food : Int) : Prop :=
  ∀ tile ∈ world.tiles, tile = ⟨food, none⟩

theorem exists_make {width height : Int}
    (wide : 1 ≤ width) (high : 1 ≤ height) (food : Int) :
    ∃ world, make width height food = .ok world ∧
      world.extent = ⟨width, height⟩ ∧ world.Bare food := by
  refine ⟨_, dif_pos ⟨wide, high⟩, ?_, ?_⟩
  · simp only [extent, Extent.mk.injEq]
    omega
  · intro tile member
    exact (Array.mem_replicate.1 member).2

variable {food : Int}

theorem Bare.eq_of_tile? (bare : world.Bare food)
    {position : Position} {tile : Tile}
    (found : world.tile? position = some tile) : tile = ⟨food, none⟩ := by
  have onGrid := contains_of_tile? found
  rw [tile?, if_pos onGrid] at found
  exact bare tile (Array.mem_of_getElem? found)

theorem Bare.occupant?_eq_none (bare : world.Bare food)
    (position : Position) : world.occupant? position = none := by
  cases found : world.tile? position with
  | none =>
      rw [occupant?, found]
      rfl
  | some tile =>
      rw [occupant?_of_tile? found, bare.eq_of_tile? found]

theorem Bare.occupiedCount_eq_zero (bare : world.Bare food) :
    world.occupiedCount = 0 := by
  rw [occupiedCount, Array.countP_eq_zero]
  intro tile member
  rw [bare tile member]
  exact Bool.false_ne_true

end World

end Vivarium
