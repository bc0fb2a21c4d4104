import Vivarium.Fault

/-!
# Dice

A source of random numbers is a value with one operation: a roll of a die
with a given number of sides answers one of the sides and the source that is
left. Nothing else is assumed of it, so a fact that holds for every type with
this operation holds for every stream of answers.
-/

namespace Vivarium

/-- A source of random numbers. -/
class Dice (σ : Type) where
  /-- Rolls a die whose sides are numbered from `0`. -/
  roll : σ → (sides : Nat) → 0 < sides → Fin sides × σ

namespace Dice

/-- Rolls a die with any number of sides, of which there has to be one. -/
def roll? {σ : Type} [Dice σ] (dice : σ) (sides : Int) :
    Except Fault Nat × σ :=
  if positive : 0 < sides.toNat then
    let (face, dice) := roll dice sides.toNat positive
    (.ok face, dice)
  else
    (.error .emptyDraw, dice)

/-- The number of steps after which a loop that waits for a lucky roll, or for
the last creature to die, is given up. No run in practice comes near it. -/
def patience : Nat := 1000000000000000000

end Dice

instance {σ τ : Type} [Dice σ] [Dice τ] : Dice (σ ⊕ τ) where
  roll dice sides positive :=
    match dice with
    | .inl dice =>
      let (face, dice) := Dice.roll dice sides positive
      (face, .inl dice)
    | .inr dice =>
      let (face, dice) := Dice.roll dice sides positive
      (face, .inr dice)

/-- A fixed list of numbers that is read round and round; each roll takes the
next of them modulo the number of sides. An empty list reads as zeros. -/
structure Script where
  values : Array Nat
  position : Nat

namespace Script

def next (script : Script) : Nat :=
  script.values.getD (script.position % script.values.size) 0

instance : Dice Script where
  roll script sides positive :=
    (⟨script.next % sides, Nat.mod_lt _ positive⟩,
      { script with position := script.position + 1 })

end Script

/-- One roll that was made: the highest side of the die and the side it
showed. -/
structure Draw where
  highest : Nat
  value : Nat
deriving DecidableEq

/-- A source that remembers its rolls, the newest first. -/
structure Recorded (σ : Type) where
  source : σ
  draws : List Draw

instance {σ : Type} [Dice σ] : Dice (Recorded σ) where
  roll dice sides positive :=
    let (face, source) := Dice.roll dice.source sides positive
    (face, ⟨source, ⟨sides - 1, face⟩ :: dice.draws⟩)

end Vivarium
