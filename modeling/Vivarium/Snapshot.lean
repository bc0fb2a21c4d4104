import Vivarium.Engine

/-!
# Snapshots

Detached copies of a tile and of the creature on it, as hosts show them.
-/

namespace Vivarium

/-- What a host sees of a creature. Its parts are plain values that nobody
checks. -/
structure CreatureSnapshot where
  slot : Int
  generation : Int
  x : Int
  y : Int
  energy : Int
  diet : String
  sensors : List (String × Int)
  genes : List String
deriving DecidableEq

structure TileSnapshot where
  x : Int
  y : Int
  food : Int
  occupant : Option CreatureSnapshot
deriving DecidableEq

namespace Creature

def snapshot (creature : Creature) : Except Fault CreatureSnapshot := do
  let genes ← Codon.labels creature.program
  return {
    slot := creature.handle.slot
    generation := creature.handle.generation
    x := creature.position.x
    y := creature.position.y
    energy := creature.energy
    diet := creature.diet.label
    sensors := creature.sensors.readings
    genes := genes }

end Creature

namespace CreatureSnapshot

def registerText (snapshot : CreatureSnapshot) (register : String) :
    Except Fault String :=
  match snapshot.sensors.lookup register with
  | some value => Figure.text value
  | none => .error (.registerMissing register)

def statsLine (snapshot : CreatureSnapshot) : Except Fault String := do
  let energy ← Figure.text snapshot.energy
  let east ← snapshot.registerText "east"
  let west ← snapshot.registerText "west"
  let north ← snapshot.registerText "north"
  let south ← snapshot.registerText "south"
  return s!"Energy: {energy} E: {east} W: {west} N: {north} S: {south}"

def lines (snapshot : CreatureSnapshot) : Except Fault (List String) := do
  let stats ← snapshot.statsLine
  return ["==Creature==",
      s!"Type: {snapshot.diet}",
      s!"Stats: {stats}",
      s!"Genes({snapshot.genes.length}):"] ++
    snapshot.genes ++
    ["============"]

end CreatureSnapshot

namespace TileSnapshot

/-- The report on a tile: its place, its food, and the block of the creature
on it. -/
def report (snapshot : TileSnapshot) : Except Fault String := do
  let x ← Figure.text snapshot.x
  let y ← Figure.text snapshot.y
  let food ← Figure.text snapshot.food
  let creature ←
    match snapshot.occupant with
    | some creature => creature.lines
    | none => pure []
  return "\n".intercalate ([s!"X: {x} Y: {y}", s!"Food: {food}"] ++ creature)

end TileSnapshot

namespace Engine

variable {σ : Type}

/-- The creature that stands on a tile, as far as the store knows it. -/
def occupantOf (engine : Engine σ) (tile : Tile) : Option Creature :=
  tile.occupant.bind engine.store.get

/-- The snapshot of the tile at a position; there is none off the grid. -/
def describe (engine : Engine σ) (position : Position) :
    Except Fault (Option TileSnapshot) :=
  match engine.world.tile? position with
  | none => .ok none
  | some tile => do
    let occupant ← (engine.occupantOf tile).mapM Creature.snapshot
    return some {
      x := position.x
      y := position.y
      food := tile.food
      occupant := occupant }

end Engine

end Vivarium
