import Vivarium.Gene

/-!
# Diets

What a program says its carrier lives on, and what that costs each round.
-/

namespace Vivarium

inductive Diet where
  | herbivore
  | carnivore
  | omnivore
deriving DecidableEq, Inhabited

namespace Diet

def ofHabits (eats attacks : Bool) : Diet :=
  match attacks, eats with
  | true, true => omnivore
  | true, false => carnivore
  | false, _ => herbivore

/-- The diet that a program stands for. What an entry acts as is what
counts. -/
def classify (program : List Codon) : Diet :=
  ofHabits (program.any (·.meaning? == some .eat))
    (program.any (·.meaning? == some .attack))

def metabolism : Diet → Int
  | herbivore => 1
  | carnivore => 5
  | omnivore => 10

def label : Diet → String
  | herbivore => "Herbivore"
  | carnivore => "Carnivore"
  | omnivore => "Omnivore"

end Diet

end Vivarium
