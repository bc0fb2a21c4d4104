import Vivarium.Config
import Vivarium.Round
import Vivarium.Seeding

/-!
# The engine

A simulation: its habitat, its parameters and what has happened so far. The
engine seeds the first population and gives every living creature one turn a
round, in the order of the slots at the start of the round. Creatures born in
a round act from the next one on.
-/

namespace Vivarium

structure Engine (σ : Type) extends Habitat σ where
  config : Config
  seed : Option Int
  /-- The number of completed rounds. -/
  round : Nat
  /-- What befell creatures in the completed rounds. -/
  totals : Tally
  /-- Whether a round has found no creature. -/
  extinct : Bool

namespace Engine

open Habitat

variable {σ : Type}

def shared {α : Type} (act : Act (Habitat σ) α) : Act (Engine σ) α :=
  Act.ofStep fun engine =>
    let (result, habitat) := act.apply engine.toHabitat
    (result, { engine with toHabitat := habitat })

/-- A new simulation with a stocked and empty grid. What it notes of its seed
has to be written. -/
def make (config : Config) (seed : Option Int) (dice : σ) (issued : Nat)
    (runId : String) : Except Fault (Engine σ) := do
  config.validate
  let world ← World.make config.width config.height config.startingFood
  let started : Notice :=
    .engineStarted runId config.width config.height seed
  let _ ← started.message
  return {
    world, issued, dice, config, seed
    store := .empty
    journal := [started]
    round := 0
    totals := .zero
    extinct := false }

def population (engine : Engine σ) : Nat := engine.store.liveCount

def setup [Dice σ] (patience : Nat) : Act (Engine σ) (List Handle) := do
  let count := (← get).config.initialPopulation
  shared (populate count Codon.starter patience)

/-- Carries out an action on a scene that begins with nothing tallied, and
answers the tally too. -/
def stage {α : Type} (act : Act (Scene σ) α) : Act (Engine σ) (α × Tally) :=
  Act.ofStep fun engine =>
    let (result, scene) :=
      act.apply { engine.toHabitat with tally := .zero }
    (result.map fun value => (value, scene.tally),
      { engine with toHabitat := scene.toHabitat })

/-- Gives every living creature one turn, and answers whether there was
any. -/
def advance [Dice σ] : Act (Engine σ) Bool := do
  let engine ← get
  let active := engine.store.handles
  let occupied := engine.world.occupiedCount
  let extinct := engine.extinct
  let round := engine.round
  shared (note (.roundBegun round active.length))
  if active.length ≠ occupied then
    throw (.miscounted active.length occupied)
  if active.isEmpty then
    if !extinct then
      shared (note (.extinct round))
    modify fun engine => { engine with extinct := true }
    return false
  let (_, tally) ← stage (Scene.playAll active)
  modify fun engine =>
    { engine with
      totals := engine.totals.merge tally
      round := engine.round + 1 }
  return true

end Engine

end Vivarium
