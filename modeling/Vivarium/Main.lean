import Std.Time.Format
import Vivarium.Headless

/-!
# The command line

Reads the arguments, runs the simulation, and prints the final figures. The
journal goes to the error stream.
-/

namespace Vivarium.CommandLine

def randomDigits (count : Nat) : IO String := do
  let mut digits := ""
  for _ in [0:count] do
    digits := digits.push (Nat.digitChar (← IO.rand 0 15))
  return digits

def randomRunId : IO String := do
  let variant := Nat.digitChar (8 + (← IO.rand 0 3))
  return "-".intercalate [
    ← randomDigits 8, ← randomDigits 4, "4" ++ (← randomDigits 3),
    variant.toString ++ (← randomDigits 3), ← randomDigits 12]

def stamped (line : String) : IO String := do
  let now ← Std.Time.PlainDateTime.now
  return now.format "uuuu-MM-dd HH:mm:ss" ++ " " ++ line

def giveUp (fault : Fault) : IO UInt32 := do
  IO.eprintln (fault.message.toOption.getD "")
  return 1

def run (options : Options) : IO UInt32 := do
  let environment ← IO.getEnv "GENEGAME_LOG_LEVEL"
  let seed ←
    match options.seed with
    | some (.number seed) => pure seed
    | _ => do pure (← IO.rand 0 (Nat.pow 2 62) : Int)
  let runId ← randomRunId
  let start ← IO.monoMsNow
  match Headless.execute options environment (Twister.ofSeed seed) runId
      Dice.patience with
  | .error fault => giveUp fault
  | .ok transcript =>
    let stop ← IO.monoMsNow
    match transcript.lines (Headless.elapsedText (stop - start)) with
    | .error fault => giveUp fault
    | .ok lines =>
      for line in lines do
        IO.eprintln (← stamped line)
      IO.print transcript.output
      return transcript.exitCode.toUInt32

end Vivarium.CommandLine

open Vivarium in
def main (arguments : List String) : IO UInt32 := do
  match Options.parse arguments with
  | .error fault =>
    IO.eprintln Options.usage
    IO.eprintln (Options.refusal fault)
    return 2
  | .ok options =>
    if options.help then
      IO.println Options.usage
      return 0
    CommandLine.run options
