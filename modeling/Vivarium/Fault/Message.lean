import Vivarium.Figure
import Vivarium.Text.Quoted

/-!
# Messages of faults

What a fault tells, which includes the numbers that a host has handed in. The
message is written when the fault comes up, and so another fault takes its place
when a number in it is too long.
-/

namespace Vivarium

namespace Handle

/-- The written form of a handle, such as `Creature#3@17`. -/
def text (handle : Handle) : Except Fault String := do
  let slot ← Figure.text handle.slot
  let generation ← Figure.text handle.generation
  return s!"Creature#{slot}@{generation}"

/-- Whether the stamp of a handle can be written. One that was drawn can, and
one that somebody made up can when it is short enough. -/
def isWritable (handle : Handle) (issued : Nat) : Bool :=
  handle.generation < issued || handle.generation < Figure.bound

theorem isWritable_of_drawn {handle : Handle} {issued : Nat}
    (drawn : handle.generation < issued) :
    handle.isWritable issued = true := by
  simp [isWritable, drawn]

end Handle

namespace Codon

def text : Codon → Except Fault String
  | .gene held => .ok held.label
  | .number value => Figure.text value
  | .word text => .ok (Text.quoted text)
  | .missing => .ok "None"

/-- The sort of value that an entry is. -/
def sort : Codon → String
  | .gene _ => "Opcode"
  | .number _ => "int"
  | .word _ => "str"
  | .missing => "NoneType"

end Codon

namespace ConfigFault

def message : ConfigFault → Except Fault String
  | extent width height => do
    let width ← Figure.text width
    let height ← Figure.text height
    return s!"World must be at least 1x1, got {width}x{height}"
  | blankHeight width => do
    let width ← Figure.text width
    return s!"World must be at least 1x1, got {width}x[]"
  | negativePopulation population => do
    let population ← Figure.text population
    return s!"initial_population must be non-negative, got {population}"
  | overcrowded population tiles => do
    let population ← Figure.text population
    let tiles ← Figure.text tiles
    return s!"initial_population {population} exceeds the {tiles} tiles " ++
      "available"
  | negativeFood food => do
    let food ← Figure.text food
    return s!"starting_food must be non-negative, got {food}"
  | negativeRounds rounds => do
    let rounds ← Figure.text rounds
    return s!"max_rounds must be non-negative, got {rounds}"
  | negativeInterval interval => do
    let interval ← Figure.text interval
    return s!"stats_interval must be non-negative, got {interval}"

end ConfigFault

namespace Fault

def message : Fault → Except Fault String
  | handleParts => .ok "EntityHandle parts must be ints"
  | negativeSlot slot => do
    let slot ← Figure.text slot
    return s!"slot_index must be non-negative, got {slot}"
  | negativeGeneration generation => do
    let generation ← Figure.text generation
    return s!"generation must be non-negative, got {generation}"
  | unknownGene code => do
    let code ← Figure.text code
    return s!"{code} is not a valid Opcode"
  | programSize size =>
    .ok s!"Gene program must hold 1..{Gene.maxProgram} opcodes, got {size}"
  | foreignCodon codon => do
    let codon ← codon.text
    return s!"Invalid gene {codon}; expected an Opcode"
  | meaningless codon => codon.text
  | nameless codon =>
    .ok s!"'{codon.sort}' object has no attribute 'display_name'"
  | registerMissing register => .ok (Text.quoted register)
  | longFigure =>
    .ok ("Exceeds the limit (4300 digits) for integer string conversion; " ++
      "use sys.set_int_max_str_digits() to increase the limit")
  | negativeEnergy energy => do
    let energy ← Figure.text energy
    return s!"energy must be non-negative, got {energy}"
  | sensorRange register value => do
    let value ← Figure.text value
    return s!"Sensor {register} out of byte range: {value}"
  | registerRange value => do
    let value ← Figure.text value
    return s!"register value {value} out of range"
  | worldExtent width height => do
    let width ← Figure.text width
    let height ← Figure.text height
    return s!"World must be at least 1x1, got {width}x{height}"
  | offGrid position => do
    let x ← Figure.text position.x
    let y ← Figure.text position.y
    return s!"({x}, {y}) is off the grid"
  | unrunnable carrier size => do
    let carrier ← carrier.text
    return s!"{carrier} carries {size} genes (max {Gene.maxProgram})"
  | emptyDraw => .ok "empty range for randrange()"
  | crowded count free => do
    let count ← Figure.text count
    return s!"Cannot place {count} creatures on {free} free tiles"
  | miscounted stored occupied =>
    .ok s!"{stored} stored creatures but {occupied} occupied tiles"
  | unknownLevel name =>
    let name := Text.quoted name
    .ok s!"Unknown level: {name}"
  | quotientOverflow => .ok "integer division result too large for a float"
  | config fault => fault.message
  | blankNumber =>
    .ok "'<' not supported between instances of 'list' and 'int'"
  | blankSeed =>
    .ok ("The only supported seed types are: None,\n" ++
      "int, float, str, bytes, and bytearray.")
  | unfinished => .ok "the loop was given up before its end"

/-- What comes up for a fault whose message is written at once. -/
def raised (fault : Fault) : Fault :=
  match fault.message with
  | .ok _ => fault
  | .error unwritten => unwritten

theorem raised_offGrid (position : Position) :
    raised (.offGrid position) =
      if Figure.Short position.x ∧ Figure.Short position.y then
        .offGrid position
      else .longFigure := by
  by_cases x : Figure.Short position.x
  · by_cases y : Figure.Short position.y
    · rw [if_pos ⟨x, y⟩]
      simp only [raised, message, Figure.text_of_short x,
        Figure.text_of_short y]
      rfl
    · rw [if_neg fun both => y both.2]
      simp only [raised, message, Figure.text_of_short x,
        Figure.text_of_long y]
      rfl
  · rw [if_neg fun both => x both.1]
    simp only [raised, message, Figure.text_of_long x]
    rfl

theorem raised_crowded (count free : Int) :
    raised (.crowded count free) =
      if Figure.Short count then .crowded count free else .longFigure := by
  by_cases short : Figure.Short count
  · rw [if_pos short]
    simp only [raised, message, Figure.text_of_short short]
    rfl
  · rw [if_neg short]
    simp only [raised, message, Figure.text_of_long short]
    rfl

end Fault

end Vivarium
