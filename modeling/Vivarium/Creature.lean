import Vivarium.Admission
import Vivarium.Diet
import Vivarium.Sensors

/-!
# Creatures

A single individual: where it stands, what it has, and the program it acts
by. Its diet is read off the program at birth and kept for life.
-/

namespace Vivarium

def initialEnergy : Int := 100

structure Creature where
  handle : Handle
  position : Position
  energy : Int
  sensors : Sensors
  program : List Codon
  diet : Diet
deriving DecidableEq, Inhabited

namespace Creature

/-- A creature with given properties. Its program is checked before its
energy. -/
def make (handle : Handle) (position : Position) (program : List Codon)
    (energy : Int) (sensors : Sensors) : Except Fault Creature := do
  Codon.checkProgram program
  if energy < 0 then
    .error (Fault.negativeEnergy energy).raised
  else
    return {
      handle, position, energy, sensors, program
      diet := Diet.classify program }

def newborn (handle : Handle) (position : Position) (program : List Codon) :
    Except Fault Creature :=
  make handle position program initialEnergy .midpoint

def metabolism (creature : Creature) : Int :=
  creature.diet.metabolism

def statsLine (creature : Creature) : Except Fault String := do
  let sensors := creature.sensors
  let energy ← Figure.text creature.energy
  return s!"Energy: {energy} E: {sensors.east} W: {sensors.west} " ++
    s!"N: {sensors.north} S: {sensors.south}"

def lines (creature : Creature) : Except Fault (List String) := do
  let stats ← creature.statsLine
  let labels ← Codon.labels creature.program
  return ["==Creature==",
      s!"Type: {creature.diet.label}",
      s!"Stats: {stats}",
      s!"Genes({creature.program.length}):"] ++
    labels ++
    ["============"]

def text (creature : Creature) : Except Fault String := do
  return "\n".intercalate (← creature.lines)

def summary (creature : Creature) : Except Fault String := do
  let handle ← creature.handle.text
  let x ← Figure.text creature.position.x
  let y ← Figure.text creature.position.y
  let energy ← Figure.text creature.energy
  return s!"Creature({handle}, pos=({x}, {y}), " ++
    s!"energy={energy}, {creature.diet.label}, " ++
    s!"genes={creature.program.length})"

end Creature

end Vivarium
