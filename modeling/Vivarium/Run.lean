import Vivarium.Census

/-!
# Runs

Rounds one after the other, until no creature is left or a bound is reached.
-/

namespace Vivarium

namespace Engine

variable {σ : Type}

def runRounds [Dice σ] : (limit completed : Nat) → Act (Engine σ) Nat
  | 0, completed => return completed
  | limit + 1, completed => do
    if ← advance then
      noteStats
      runRounds limit (completed + 1)
    else
      return completed

/-- Plays rounds until no creature is left, or up to a bound: the given one,
else that of the parameters. Without a bound the run is given up when its
patience is at an end. -/
def run [Dice σ] (patience : Nat) (bound : Option Int) :
    Act (Engine σ) Nat := do
  match bound <|> (← get).config.maxRounds with
  | some limit => runRounds limit.toNat 0
  | none =>
    let completed ← runRounds patience 0
    if completed = patience then
      throw .unfinished
    return completed

end Engine

end Vivarium
