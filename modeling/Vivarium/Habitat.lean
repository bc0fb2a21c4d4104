import Vivarium.Act
import Vivarium.Dice
import Vivarium.Journal
import Vivarium.Store
import Vivarium.World

/-!
# The habitat

Everything that creatures share: the grid, the store, the source of random
numbers, the counter that stamps the newborn, and the journal.
-/

namespace Vivarium

/-- What the creatures of a simulation share. -/
structure Habitat (σ : Type) where
  world : World
  store : Store
  /-- The number of generations issued so far, which is the next stamp. All
  simulations that run side by side share one count. -/
  issued : Nat
  dice : σ
  /-- The notices, the newest first. -/
  journal : List Notice

namespace Habitat

variable {σ : Type}

/-- Notes something down. What is noted in a round tells of handles that were
drawn, of positions on the grid and of counts, which can all be written. -/
def note (notice : Notice) : Act (Habitat σ) Unit :=
  modify fun habitat =>
    { habitat with journal := notice :: habitat.journal }

/-- The tile at a position, which has to lie on the grid. -/
def inspect (position : Position) : Act (Habitat σ) Tile := do
  (← get).world.tileAt position

def occupy (position : Position) (occupant : Option Handle) :
    Act (Habitat σ) Unit :=
  modify fun habitat =>
    { habitat with world := habitat.world.setOccupant position occupant }

def addFood (position : Position) (amount : Int) : Act (Habitat σ) Unit :=
  modify fun habitat =>
    { habitat with
      world := habitat.world.update position fun tile =>
        { tile with food := tile.food + amount } }

/-- Releases the slot of a handle, and notes down when the slot exists but
the handle does not hold it. -/
def release (handle : Handle) : Act (Habitat σ) Bool := do
  let released ← modifyGet fun habitat =>
    let (released, store) := habitat.store.release handle
    (released, { habitat with store })
  if !released && handle.slot < (← get).store.count then
    note (.staleRelease handle)
  return released

/-- Releases a slot for a host. -/
def deallocate (handle : Handle) : Act (Habitat σ) Bool := do
  let habitat ← get
  match (habitat.store.deallocate habitat.issued handle).1 with
  | .ok _ => release handle
  | .error fault => throw fault

/-- Stores a newborn creature. Its tile is not marked. -/
def spawn (position : Position) (program : List Codon) :
    Act (Habitat σ) Handle :=
  Act.ofStep fun habitat =>
    let (result, store, issued) :=
      habitat.store.addCreature habitat.issued position program
    (result, { habitat with store, issued })

def allocate : Act (Habitat σ) Handle :=
  modifyGet fun habitat =>
    let (handle, store, issued) := habitat.store.allocate habitat.issued
    (handle, { habitat with store, issued })

def take (handle : Handle) : Act (Habitat σ) (Option Creature) :=
  modifyGet fun habitat =>
    let (creature, store) := habitat.store.take handle
    (creature, { habitat with store })

def put (handle : Handle) (creature : Creature) : Act (Habitat σ) Unit :=
  modify fun habitat =>
    { habitat with store := habitat.store.set handle creature }

def roll [Dice σ] (sides : Int) : Act (Habitat σ) Nat :=
  Act.ofStep fun habitat =>
    let (result, dice) := Dice.roll? habitat.dice sides
    (result, { habitat with dice })

end Habitat

end Vivarium
