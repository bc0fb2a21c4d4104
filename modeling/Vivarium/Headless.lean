import Vivarium.Dice.Twister
import Vivarium.Options
import Vivarium.Run

/-!
# Headless runs

A simulation from its parameters to its final figures, and what the command
line shows of it.
-/

namespace Vivarium

namespace Headless

/-- Seeds a simulation, plays it, and answers the number of completed rounds
and the final figures. The notices that were made are answered in any case,
the oldest first. -/
def play {σ : Type} [Dice σ] (engine : Engine σ) (bound : Option Int)
    (patience : Nat) : Except Fault (Nat × Stats) × List Notice :=
  let run : Act (Engine σ) (Nat × Stats) := do
    let _ ← Engine.setup patience
    let completed ← Engine.run patience bound
    let stats ← (← get).stats
    return (completed, stats)
  let (result, engine) := run.apply engine
  (result, engine.journal.reverse)

def finalStats (config : Config) (bound : Option Int) (patience : Nat) :
    Except Fault Stats := do
  let dice := Twister.ofSeed (config.seed.getD 0)
  let engine ← Engine.make config config.seed dice 0 ""
  let (_, stats) ← (play engine bound patience).1
  return stats

/-- What the command line shows of a run. -/
structure Transcript where
  /-- The level from which on notices are shown. -/
  level : Level
  exitCode : Nat
  output : String
  notices : List Notice
  /-- The number of completed rounds, if they are to be shown. -/
  completed : Option Nat

namespace Transcript

/-- The lines of the journal that are shown. How long the rounds took is for
the caller to say. -/
def lines (transcript : Transcript) (elapsed : Nat → String) :
    Except Fault (List String) :=
  let closing := transcript.completed.map fun rounds =>
    Notice.runCompleted rounds (elapsed rounds)
  let notices := transcript.notices ++ closing.toList
  (notices.filter fun notice => transcript.level.shows notice.level).mapM
    Notice.line

end Transcript

/-- A number of tenths or hundredths and so on, with a point. -/
def fixedText (places units : Nat) : String :=
  Binary64.positional ⟨units, -(places : Int)⟩

def elapsedText (milliseconds rounds : Nat) : String :=
  let seconds := Binary64.roundQuotient milliseconds 10
  let rate :=
    if milliseconds = 0 then 0
    else Binary64.roundQuotient (rounds * 10000) milliseconds
  s!"{fixedText 2 seconds}s ({fixedText 1 rate} rounds/s)"

/-- Carries out what the command line asks for. The environment may name a
level for the journal. -/
def execute {σ : Type} [Dice σ] (options : Options)
    (environment : Option String) (dice : σ) (runId : String)
    (patience : Nat) : Except Fault Transcript := do
  let level ← options.level environment
  match options.config with
  | .error (.config fault) =>
    return {
      level
      exitCode := 2
      output := ""
      notices := [.journalOpened, .configRefused fault]
      completed := none }
  | .error fault => throw fault
  | .ok config =>
    let opening : List Notice :=
      if options.quiet then []
      else
        [.runBegun config.width config.height config.initialPopulation
          config.seed]
    let _ ← opening.mapM Notice.message
    let engine ← Engine.make config config.seed dice 0 runId
    let (result, notices) := play engine none patience
    let (completed, stats) ← result
    return {
      level
      exitCode := 0
      output := stats.object ++ "\n"
      notices := .journalOpened :: opening ++ notices
      completed := if options.quiet then none else some completed }

end Headless

end Vivarium
