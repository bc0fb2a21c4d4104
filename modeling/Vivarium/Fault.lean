import Vivarium.Gene
import Vivarium.Handle
import Vivarium.Torus

/-!
# Faults

Every way in which an operation can fail. Routine outcomes, such as a stale
handle or a blocked move, are not faults.
-/

namespace Vivarium

inductive ConfigFault where
  | extent (width height : Int)
  /-- A width that is refused before anyone looks for the height, which has
  been left blank. -/
  | blankHeight (width : Int)
  | negativePopulation (population : Int)
  | overcrowded (population tiles : Int)
  | negativeFood (food : Int)
  | negativeRounds (rounds : Int)
  | negativeInterval (interval : Int)
deriving DecidableEq

inductive Fault where
  /-- A part of a handle is no integer. -/
  | handleParts
  | negativeSlot (slot : Int)
  | negativeGeneration (generation : Int)
  | unknownGene (code : Int)
  | programSize (size : Nat)
  | foreignCodon (codon : Codon)
  /-- An entry of a program that acts as no gene. -/
  | meaningless (codon : Codon)
  /-- An entry of a program that has no name to show. -/
  | nameless (codon : Codon)
  | registerMissing (register : String)
  /-- A number that is too long to be written. -/
  | longFigure
  | negativeEnergy (energy : Int)
  /-- A register that is set up with more, or less, than a byte holds. -/
  | sensorRange (register : String) (value : Int)
  /-- A value written to a register that is no byte. -/
  | registerRange (value : Int)
  | worldExtent (width height : Int)
  | offGrid (position : Position)
  | unrunnable (carrier : Handle) (size : Nat)
  | emptyDraw
  | crowded (count free : Int)
  | miscounted (stored occupied : Nat)
  | unknownLevel (name : String)
  | quotientOverflow
  | config (fault : ConfigFault)
  | blankNumber
  | blankSeed
  /-- A loop that was given up before its end. -/
  | unfinished
deriving DecidableEq

end Vivarium
