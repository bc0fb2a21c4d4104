import Vivarium.Fault.Message

/-!
# Sensors

The four directions and the byte registers that weigh them.
-/

namespace Vivarium

inductive Direction where
  | east
  | west
  | north
  | south
deriving DecidableEq, Inhabited

namespace Direction

/-- The directions in the order in which registers are read and written. -/
def all : List Direction := [east, west, north, south]

def offset : Direction → Offset
  | east => ⟨1, 0⟩
  | west => ⟨-1, 0⟩
  | north => ⟨0, -1⟩
  | south => ⟨0, 1⟩

def name : Direction → String
  | east => "EAST"
  | west => "WEST"
  | north => "NORTH"
  | south => "SOUTH"

def ofName? (name : String) : Option Direction :=
  all.find? (·.name == name)

end Direction

def registerMax : Nat := 255

/-- Clamps an amount into a register. -/
def saturate (value : Int) : Int :=
  if (registerMax : Int) ≤ value then registerMax else max value 0

structure Sensors where
  east : Nat
  west : Nat
  north : Nat
  south : Nat
deriving DecidableEq

namespace Sensors

/-- All registers at the midpoint: no direction is preferred yet. -/
def midpoint : Sensors := ⟨128, 128, 128, 128⟩

instance : Inhabited Sensors := ⟨midpoint⟩

def InRange (sensors : Sensors) : Prop :=
  sensors.east ≤ registerMax ∧ sensors.west ≤ registerMax ∧
    sensors.north ≤ registerMax ∧ sensors.south ≤ registerMax

def get (sensors : Sensors) : Direction → Nat
  | .east => sensors.east
  | .west => sensors.west
  | .north => sensors.north
  | .south => sensors.south

def readings (sensors : Sensors) : List (String × Int) :=
  [("east", sensors.east), ("west", sensors.west), ("north", sensors.north),
    ("south", sensors.south)]

def put (sensors : Sensors) (direction : Direction) (value : Nat) : Sensors :=
  match direction with
  | .east => { sensors with east := value }
  | .west => { sensors with west := value }
  | .north => { sensors with north := value }
  | .south => { sensors with south := value }

/-- Writes a register, which takes nothing but a byte. -/
def set (sensors : Sensors) (direction : Direction) (value : Int) :
    Except Fault Sensors :=
  if 0 ≤ value ∧ value ≤ registerMax then
    .ok (sensors.put direction value.toNat)
  else
    .error (Fault.registerRange value).raised

/-- The value of a register that is set up from outside. -/
def checkRegister (register : String) (value : Int) : Except Fault Nat :=
  if 0 ≤ value ∧ value ≤ registerMax then .ok value.toNat
  else .error (Fault.sensorRange register value).raised

/-- Registers with given values, checked in the order of the directions. -/
def ofValues (east west north south : Int) : Except Fault Sensors := do
  let east ← checkRegister "east" east
  let west ← checkRegister "west" west
  let north ← checkRegister "north" north
  let south ← checkRegister "south" south
  return ⟨east, west, north, south⟩

/-- The register of a direction reflected in the byte range: `v` becomes
`|v - 255|`. -/
def reflected (sensors : Sensors) (direction : Direction) : Int :=
  ((sensors.get direction : Int) - registerMax).natAbs

def invert (sensors : Sensors) : Except Fault Sensors :=
  Direction.all.foldlM
    (fun sensors direction =>
      sensors.set direction (sensors.reflected direction))
    sensors

end Sensors

end Vivarium
