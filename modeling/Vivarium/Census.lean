import Vivarium.Engine
import Vivarium.Stats

/-!
# The census

The figures of the population of a simulation.
-/

namespace Vivarium

namespace Census

/-- The average of some amounts, if a floating-point number can hold it. -/
def average (amounts : List Int) : Except Fault Binary64 :=
  let total := amounts.foldl (· + ·) 0
  match Binary64.ofQuotient? total amounts.length with
  | some number => .ok number
  | none => .error .quotientOverflow

def countDiet (diet : Diet) (creatures : List Creature) : Nat :=
  creatures.countP fun creature => creature.diet = diet

end Census

namespace Engine

open Census

variable {σ : Type}

def stats (engine : Engine σ) : Except Fault Stats := do
  let creatures := engine.store.creatures
  let averageEnergy ← average (creatures.map Creature.energy)
  let averageGeneCount ←
    average (creatures.map fun creature => creature.program.length)
  return {
    averageEnergy, averageGeneCount
    round := engine.round
    population := creatures.length
    herbivores := countDiet .herbivore creatures
    carnivores := countDiet .carnivore creatures
    omnivores := countDiet .omnivore creatures
    totalFood := engine.world.totalFood
    totalBirths := engine.totals.births
    deathsByStarvation := engine.totals.starvations
    deathsByAttack := engine.totals.kills
    extinct := engine.extinct }

/-- Notes the figures down when the number of completed rounds is a multiple
of the interval. -/
def noteStats : Act (Engine σ) Unit := do
  let engine ← get
  let interval := engine.config.statsInterval
  if interval ≠ 0 ∧ (engine.round : Int) % interval = 0 then
    let stats ← engine.stats
    let line ← stats.line
    shared (Habitat.note (.statistics line))

end Engine

end Vivarium
