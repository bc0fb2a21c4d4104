import Vivarium.Binary64
import Vivarium.Figure

/-!
# Statistics

The figures of a population after a round, and their two written forms: one
line for the journal and an object for the end of a run.
-/

namespace Vivarium

structure Stats where
  round : Int
  population : Int
  herbivores : Int
  carnivores : Int
  omnivores : Int
  totalFood : Int
  averageEnergy : Binary64
  averageGeneCount : Binary64
  totalBirths : Int
  deathsByStarvation : Int
  deathsByAttack : Int
  extinct : Bool
deriving DecidableEq

namespace Stats

def line (stats : Stats) : Except Fault String := do
  let round ← Figure.text stats.round
  let population ← Figure.text stats.population
  let herbivores ← Figure.text stats.herbivores
  let carnivores ← Figure.text stats.carnivores
  let omnivores ← Figure.text stats.omnivores
  let food ← Figure.text stats.totalFood
  let births ← Figure.text stats.totalBirths
  let starved ← Figure.text stats.deathsByStarvation
  let killed ← Figure.text stats.deathsByAttack
  return s!"Round {round}: population={population} " ++
    s!"(H/C/O {herbivores}/{carnivores}/{omnivores}) " ++
    s!"food={food} births={births} starved={starved} killed={killed}"

def fields (stats : Stats) : List (String × String) :=
  [("round", toString stats.round),
    ("population", toString stats.population),
    ("herbivores", toString stats.herbivores),
    ("carnivores", toString stats.carnivores),
    ("omnivores", toString stats.omnivores),
    ("total_food", toString stats.totalFood),
    ("average_energy", stats.averageEnergy.text),
    ("average_gene_count", stats.averageGeneCount.text),
    ("total_births", toString stats.totalBirths),
    ("deaths_by_starvation", toString stats.deathsByStarvation),
    ("deaths_by_attack", toString stats.deathsByAttack),
    ("extinct", if stats.extinct then "true" else "false")]

/-- The figures as an object with one indented member a line. -/
def object (stats : Stats) : String :=
  let members := stats.fields.map fun (name, value) =>
    "  \"" ++ name ++ "\": " ++ value
  "\x7b\n" ++ ",\n".intercalate members ++ "\n\x7d"

end Stats

end Vivarium
