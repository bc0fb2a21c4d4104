import Vivarium.Dice
import Vivarium.Sensors

/-!
# The compass

How a creature picks the direction it acts in: a weighted roll over its four
registers.
-/

namespace Vivarium

namespace Sensors

/-- The weight of a direction: one more than its register, so that no
direction is ever ruled out. -/
def weight (sensors : Sensors) (direction : Direction) : Nat :=
  sensors.get direction + 1

/-- The sum of the four weights, which is also the highest side of the die. -/
def totalWeight (sensors : Sensors) : Nat :=
  sensors.weight .east + sensors.weight .west +
    sensors.weight .north + sensors.weight .south

/-- The direction that a side of the die stands for. The weights follow one
another in the order of the directions; the south has what is left, which is
one side more than its weight. -/
def directionOf (sensors : Sensors) (face : Nat) : Direction :=
  if face < sensors.weight .east then .east
  else if face < sensors.weight .east + sensors.weight .west then .west
  else if face <
      sensors.weight .east + sensors.weight .west + sensors.weight .north then
    .north
  else .south

/-- Picks a direction. -/
def chooseDirection {σ : Type} [Dice σ] (sensors : Sensors) (dice : σ) :
    Direction × σ :=
  let (face, dice) :=
    Dice.roll dice (sensors.totalWeight + 1) (Nat.succ_pos _)
  (sensors.directionOf face, dice)

end Sensors

end Vivarium
