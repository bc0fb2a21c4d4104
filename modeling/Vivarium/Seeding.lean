import Vivarium.Habitat

/-!
# Seeding

How creatures are scattered over the free tiles of a grid: each gets a
position at random, rolled again until it is free.
-/

namespace Vivarium

namespace Habitat

variable {σ : Type}

def freeTiles (habitat : Habitat σ) : Int :=
  habitat.world.extent.area - habitat.world.occupiedCount

def rollPosition [Dice σ] : Act (Habitat σ) Position :=
  modifyGet fun habitat =>
    let (x, dice) :=
      Dice.roll habitat.dice habitat.world.width habitat.world.width_pos
    let (y, dice) :=
      Dice.roll dice habitat.world.height habitat.world.height_pos
    (⟨x.val, y.val⟩, { habitat with dice })

def rollFree [Dice σ] : (patience : Nat) → Act (Habitat σ) Position
  | 0 => throw .unfinished
  | patience + 1 => do
    let position ← rollPosition
    let tile ← inspect position
    if tile.isOccupied then rollFree patience else return position

def placeOne [Dice σ] (program : List Codon) (patience : Nat) :
    Act (Habitat σ) Handle := do
  let position ← rollFree patience
  let handle ← spawn position program
  occupy position (some handle)
  return handle

/-- Places so many creatures, one after the other. The handles come after
those that are given, the newest first. -/
def placeMany [Dice σ] (program : List Codon) (patience : Nat) :
    (count : Nat) → (placed : List Handle) → Act (Habitat σ) (List Handle)
  | 0, placed => return placed
  | count + 1, placed => do
    let handle ← placeOne program patience
    placeMany program patience count (handle :: placed)

/-- Scatters creatures with one program over the free tiles, if there are
enough of them, and answers their handles in the order of placement. -/
def populate [Dice σ] (count : Int) (program : List Codon) (patience : Nat) :
    Act (Habitat σ) (List Handle) := do
  let habitat ← get
  if habitat.freeTiles < count then
    throw (Fault.crowded count habitat.freeTiles).raised
  let placed ← placeMany program patience count.toNat []
  note (.seeded placed.length habitat.world.width habitat.world.height)
  return placed.reverse

end Habitat

end Vivarium
