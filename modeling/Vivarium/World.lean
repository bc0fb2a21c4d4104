import Vivarium.Fault.Message
import Vivarium.Torus

/-!
# The world

A fixed grid of tiles, each with food on it and at most one occupant. A tile
holds the occupant's handle, never the creature. Addressing does not wrap.
-/

namespace Vivarium

def defaultFood : Int := 100

structure Tile where
  food : Int
  occupant : Option Handle
deriving DecidableEq, Inhabited

namespace Tile

def isOccupied (tile : Tile) : Bool := tile.occupant.isSome

end Tile

/-- A grid of at least one tile, kept row by row. -/
structure World where
  width : Nat
  height : Nat
  tiles : Array Tile
  width_pos : 0 < width
  height_pos : 0 < height
  size_tiles : tiles.size = width * height

namespace World

def make (width height food : Int) : Except Fault World :=
  if positive : 1 ≤ width ∧ 1 ≤ height then
    .ok {
      width := width.toNat
      height := height.toNat
      tiles := Array.replicate (width.toNat * height.toNat) ⟨food, none⟩
      width_pos := by omega
      height_pos := by omega
      size_tiles := Array.size_replicate }
  else
    .error (Fault.worldExtent width height).raised

def extent (world : World) : Extent := ⟨world.width, world.height⟩

def contains (world : World) (position : Position) : Bool :=
  world.extent.contains position

def neighbor (world : World) (position : Position) (offset : Offset) :
    Position :=
  world.extent.neighbor position offset

/-- The place of a position in the rows laid end to end. -/
def index (world : World) (position : Position) : Nat :=
  position.y.toNat * world.width + position.x.toNat

def positionAt (world : World) (index : Nat) : Position :=
  ⟨(index % world.width : Nat), (index / world.width : Nat)⟩

def tile? (world : World) (position : Position) : Option Tile :=
  if world.contains position then world.tiles[world.index position]?
  else none

/-- The tile at a position, which has to lie on the grid. -/
def tileAt (world : World) (position : Position) : Except Fault Tile :=
  match world.tile? position with
  | some tile => .ok tile
  | none => .error (Fault.offGrid position).raised

/-- Changes the tile at a position; off the grid there is nothing to
change. -/
def update (world : World) (position : Position) (change : Tile → Tile) :
    World :=
  if world.contains position then
    { world with
      tiles := world.tiles.modify (world.index position) change
      size_tiles := by rw [Array.size_modify, world.size_tiles] }
  else
    world

def setFood (world : World) (position : Position) (food : Int) : World :=
  world.update position fun tile => { tile with food }

def setOccupant (world : World) (position : Position)
    (occupant : Option Handle) : World :=
  world.update position fun tile => { tile with occupant }

/-- All tiles with their positions, row by row. -/
def entries (world : World) : List (Position × Tile) :=
  world.tiles.toList.zipIdx.map fun (tile, index) =>
    (world.positionAt index, tile)

def occupiedCount (world : World) : Nat :=
  world.tiles.countP Tile.isOccupied

def totalFood (world : World) : Int :=
  world.tiles.foldl (fun total tile => total + tile.food) 0

end World

end Vivarium
