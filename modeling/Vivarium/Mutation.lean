import Vivarium.Dice

/-!
# Mutation

What becomes of a program when it is handed on: most births copy it, the
others overwrite one gene or, rarely and while there is room, append one.
-/

namespace Vivarium

/-- How many births in a hundred change the program. -/
def mutationChance : Nat := 10

/-- How many changes in a hundred append the new gene. -/
def newGeneChance : Nat := 1

/-- The program of an offspring. The roll for an appended gene is made also
when there is no room for one; then a gene is overwritten. -/
def mutate {σ : Type} [Dice σ] (program : List Codon) (dice : σ) :
    Except Fault (List Codon) × σ :=
  let (chance, dice) := Dice.roll dice 100 (by decide)
  if mutationChance ≤ chance.val then
    (.ok program, dice)
  else
    let (code, dice) := Dice.roll dice 8 (by decide)
    let codon := Codon.gene (Gene.ofFin code)
    let (appendRoll, dice) := Dice.roll dice 100 (by decide)
    if program.length < Gene.maxProgram ∧ appendRoll.val < newGeneChance then
      (.ok (program ++ [codon]), dice)
    else if nonempty : 0 < program.length then
      let (index, dice) := Dice.roll dice program.length nonempty
      (.ok (program.set index codon), dice)
    else
      (.error .emptyDraw, dice)

end Vivarium
