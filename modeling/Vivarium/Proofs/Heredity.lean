import Vivarium.Creature
import Vivarium.Mutation

/-!
# Heredity

How a program is handed on, and what makes a creature viable: a program that
is admitted at birth, energy that is not negative, registers that are bytes,
and the diet that its program stands for.
-/

namespace Vivarium

namespace Codon

/-- The programs that an offspring can be given: that of its parent, perhaps
with one gene overwritten or, while there is room, appended. -/
inductive Inherits (parent : List Codon) : List Codon → Prop where
  | copied : Inherits parent parent
  | overwritten (index : Nat) (inside : index < parent.length) (held : Gene) :
      Inherits parent (parent.set index (gene held))
  | appended (room : parent.length < Gene.maxProgram) (held : Gene) :
      Inherits parent (parent ++ [gene held])

theorem Inherits.checkProgram
    {parent child : List Codon} (inherits : Inherits parent child)
    (admitted : checkProgram parent = .ok ()) :
    Codon.checkProgram child = .ok () := by
  rcases checkProgram_eq_ok_iff.1 admitted with ⟨nonempty, short, genes⟩
  apply checkProgram_eq_ok_iff.2
  cases inherits with
  | copied =>
      exact ⟨nonempty, short, genes⟩
  | overwritten index inside held =>
      rw [List.length_set]
      refine ⟨nonempty, short, fun codon member => ?_⟩
      rcases List.mem_or_eq_of_mem_set member with old | rfl
      · exact genes codon old
      · rfl
  | appended room held =>
      rw [List.length_append, List.length_singleton]
      refine ⟨Nat.le_add_left 1 _, room, fun codon member => ?_⟩
      rcases List.mem_append.1 member with old | new
      · exact genes codon old
      · rw [List.mem_singleton.1 new]
        rfl

theorem checkProgram_starter : checkProgram starter = .ok () :=
  rfl

end Codon

theorem Sensors.inRange_midpoint : midpoint.InRange := by
  unfold InRange
  decide

/-- Mutation never fails on a program that has a gene. -/
theorem mutate_inherits
    {σ : Type} [Dice σ] {program : List Codon}
    (nonempty : 0 < program.length) (dice : σ) :
    ∃ child after, mutate program dice = (.ok child, after) ∧
      Codon.Inherits program child := by
  unfold mutate
  rcases Dice.roll dice 100 _ with ⟨chance, dice⟩
  dsimp only
  split
  · exact ⟨program, dice, rfl, .copied⟩
  · rcases Dice.roll dice 8 _ with ⟨code, dice⟩
    dsimp only
    rcases Dice.roll dice 100 _ with ⟨appendRoll, dice⟩
    dsimp only
    split
    · next room =>
      exact ⟨_, dice, rfl, .appended room.1 _⟩
    · rcases Dice.roll dice program.length nonempty with ⟨index, dice⟩
      exact ⟨_, dice, rfl, .overwritten index index.isLt _⟩

/-! ## Viable creatures -/

namespace Creature

/-- What every creature of a simulation keeps from its birth on. -/
structure Viable (creature : Creature) : Prop where
  program : Codon.checkProgram creature.program = .ok ()
  energy : 0 ≤ creature.energy
  sensors : creature.sensors.InRange
  diet : creature.diet = Diet.classify creature.program

def born
    (handle : Handle) (position : Position) (program : List Codon) :
    Creature where
  handle := handle
  position := position
  energy := initialEnergy
  sensors := .midpoint
  program := program
  diet := Diet.classify program

variable {handle : Handle} {position : Position} {program : List Codon}

theorem newborn_eq_ok (admitted : Codon.checkProgram program = .ok ()) :
    newborn handle position program =
      .ok (born handle position program) := by
  rw [newborn, make, admitted]
  rfl

theorem viable_born (admitted : Codon.checkProgram program = .ok ()) :
    (born handle position program).Viable where
  program := admitted
  energy := by
    show 0 ≤ initialEnergy
    decide
  sensors := Sensors.inRange_midpoint
  diet := rfl

/-- Every entry of the program of a viable creature is a gene. -/
theorem Viable.exists_gene {creature : Creature}
    (viable : creature.Viable) {codon : Codon}
    (member : codon ∈ creature.program) :
    ∃ gene, codon = .gene gene := by
  rcases Codon.checkProgram_eq_ok_iff.1 viable.program with ⟨-, -, genes⟩
  exact Codon.isGene_iff.1 (genes codon member)

theorem Viable.exists_meaning {creature : Creature}
    (viable : creature.Viable) {codon : Codon}
    (member : codon ∈ creature.program) :
    ∃ gene, codon.meaning? = some gene := by
  rcases viable.exists_gene member with ⟨held, rfl⟩
  exact ⟨held, rfl⟩

/-- The upkeep of a creature is at least one. -/
theorem metabolism_pos (creature : Creature) : 0 < creature.metabolism := by
  unfold metabolism
  cases creature.diet <;> decide

end Creature

end Vivarium
