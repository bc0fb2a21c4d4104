/-!
# Tallies

The births and deaths of a round, or of a whole run.
-/

namespace Vivarium

structure Tally where
  births : Int
  kills : Int
  starvations : Int
deriving DecidableEq

namespace Tally

def zero : Tally := ⟨0, 0, 0⟩

instance : Inhabited Tally := ⟨zero⟩

def deaths (tally : Tally) : Int :=
  tally.kills + tally.starvations

def merge (tally other : Tally) : Tally where
  births := tally.births + other.births
  kills := tally.kills + other.kills
  starvations := tally.starvations + other.starvations

end Tally

end Vivarium
