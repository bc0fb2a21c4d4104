import Vivarium.Compass
import Vivarium.Habitat
import Vivarium.Mutation
import Vivarium.Tally

/-!
# Turns

What a creature does when it is its turn. The genes of its program are carried
out one after the other, each of them wholly, and then the creature pays for
its upkeep.

The creature whose turn it is has been taken out of the store, so no handle
leads to it; all others are reached through the store. A blocked action is no
fault: it does nothing and the program goes on.
-/

namespace Vivarium

/-- The energy that one bite moves at most. -/
def eatQuota : Int := 10

/-- The energy that an attack takes from a victim that survives it. -/
def attackDamage : Int := 20

def reproduceThreshold : Int := 200

def reproduceCost : Int := 100

/-- The habitat and the tally of what befalls its creatures. -/
structure Scene (σ : Type) extends Habitat σ where
  tally : Tally

/-- The state of a turn: the scene and the creature that acts on it. -/
structure Turn (σ : Type) extends Scene σ where
  actor : Creature

inductive Life where
  | alive
  | dead
deriving DecidableEq, Inhabited

namespace Scene

def shared {σ α : Type} (act : Act (Habitat σ) α) : Act (Scene σ) α :=
  Act.ofStep fun scene =>
    let (result, habitat) := act.apply scene.toHabitat
    (result, { scene with toHabitat := habitat })

end Scene

namespace Turn

open Habitat

variable {σ : Type}

def shared {α : Type} (act : Act (Habitat σ) α) : Act (Turn σ) α :=
  Act.ofStep fun turn =>
    let (result, habitat) := act.apply turn.toHabitat
    (result, { turn with toHabitat := habitat })

def gain (amount : Int) : Act (Turn σ) Unit :=
  modify fun turn => { turn with actor.energy := turn.actor.energy + amount }

def count (event : Tally) : Act (Turn σ) Unit :=
  modify fun turn => { turn with tally := turn.tally.merge event }

/-- Rolls a direction and names the position one step that way. -/
def aim [Dice σ] : Act (Turn σ) Position :=
  modifyGet fun turn =>
    let (direction, dice) := turn.actor.sensors.chooseDirection turn.dice
    (turn.world.neighbor turn.actor.position direction.offset,
      { turn with dice })

def inherit [Dice σ] : Act (Turn σ) (List Codon) :=
  Act.ofStep fun turn =>
    let (program, dice) := mutate turn.actor.program turn.dice
    (program, { turn with dice })

/-! ## Genes -/

def sense (reading : Tile → Int) : Act (Turn σ) Unit :=
  Direction.all.forM fun direction => do
    let turn ← get
    let place := turn.world.neighbor turn.actor.position direction.offset
    let tile ← shared (inspect place)
    let sensors ← turn.actor.sensors.set direction (reading tile)
    modify fun turn => { turn with actor.sensors := sensors }

def foodReading (tile : Tile) : Int := saturate tile.food

/-- A full register for an occupied tile, an empty one for a free tile. -/
def creatureReading (tile : Tile) : Int :=
  if tile.isOccupied then registerMax else 0

def move [Dice σ] : Act (Turn σ) Unit := do
  let target ← aim
  let tile ← shared (inspect target)
  if tile.isOccupied then
    return
  let actor := (← get).actor
  let _ ← shared (inspect actor.position)
  shared (occupy actor.position none)
  shared (occupy target (some actor.handle))
  modify fun turn => { turn with actor.position := target }

def eat [Dice σ] : Act (Turn σ) Unit := do
  let target ← aim
  let tile ← shared (inspect target)
  if tile.isOccupied then
    return
  let taken := min eatQuota tile.food
  gain taken
  shared (addFood target (-taken))

/-- Strikes a creature that the store knows. One that has no more energy than
the damage is killed and yields all that it has. -/
def strike (target : Position) (victim : Creature) : Act (Turn σ) Unit := do
  if victim.energy ≤ attackDamage then
    gain victim.energy
    shared (occupy target none)
    let _ ← shared (release victim.handle)
    count { Tally.zero with kills := 1 }
    shared (note (.killed (← get).actor.handle victim.handle target))
  else
    modify fun turn =>
      { turn with
        store := turn.store.modify victim.handle fun victim =>
          { victim with energy := victim.energy - attackDamage } }
    gain attackDamage

/-- Strikes the occupant of a tile, if there is one and the store knows it. -/
def attack [Dice σ] : Act (Turn σ) Unit := do
  let target ← aim
  let tile ← shared (inspect target)
  match tile.occupant with
  | none => return
  | some occupant =>
    match (← get).store.get occupant with
    | none =>
      shared (note (.unresolvedAttack (← get).actor.handle occupant))
    | some victim => strike target victim

def reproduce [Dice σ] : Act (Turn σ) Unit := do
  if (← get).actor.energy < reproduceThreshold then
    return
  let target ← aim
  let tile ← shared (inspect target)
  if tile.isOccupied then
    return
  let program ← inherit
  let child ← shared (spawn target program)
  shared (occupy target (some child))
  gain (-reproduceCost)
  count { Tally.zero with births := 1 }
  shared (note (.reproduced (← get).actor.handle child target))

def invert : Act (Turn σ) Unit := do
  let sensors ← (← get).actor.sensors.invert
  modify fun turn => { turn with actor.sensors := sensors }

def perform [Dice σ] : Gene → Act (Turn σ) Unit
  | .nop => return
  | .lookForFood => sense foodReading
  | .lookForCreature => sense creatureReading
  | .move => move
  | .eat => eat
  | .attack => attack
  | .reproduce => reproduce
  | .invert => invert

/-! ## Whole turns -/

/-- Carries out one entry of a program, as the gene that it acts as. -/
def carryOut [Dice σ] (codon : Codon) : Act (Turn σ) Unit :=
  match codon.meaning? with
  | some gene => perform gene
  | none => throw (.meaningless codon)

/-- Carries out the program of the actor, which has to have 1 to 16
entries. -/
def runProgram [Dice σ] : Act (Turn σ) Unit := do
  let actor := (← get).actor
  if 1 ≤ actor.program.length ∧
      actor.program.length ≤ Gene.maxProgram then
    actor.program.forM carryOut
  else
    throw (Fault.unrunnable actor.handle actor.program.length).raised

/-- Moves the cost of living from the actor to its tile, as food. An actor
that cannot pay and have something left starves: all it has becomes food, and
its tile and its slot are given up. -/
def payUpkeep : Act (Turn σ) Life := do
  let actor := (← get).actor
  let _ ← shared (inspect actor.position)
  if actor.energy ≤ actor.metabolism then
    shared (addFood actor.position actor.energy)
    gain (-actor.energy)
    shared (occupy actor.position none)
    let _ ← shared (release actor.handle)
    count { Tally.zero with starvations := 1 }
    shared (note (.starved actor.handle actor.position))
    return .dead
  else
    shared (addFood actor.position actor.metabolism)
    gain (-actor.metabolism)
    return .alive

/-- A whole turn. An actor without energy is dead before it does anything. -/
def play [Dice σ] : Act (Turn σ) Life := do
  if (← get).actor.energy = 0 then
    return .dead
  runProgram
  payUpkeep

end Turn

end Vivarium
