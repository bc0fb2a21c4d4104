/-!
# Genes

The eight instructions of a gene program, and the entries of a program. A
creature is born with nothing but genes, but a host that edits a living one may
leave other values among them, which nobody checks.
-/

namespace Vivarium

/-- One instruction of a gene program. -/
inductive Gene where
  | nop
  | lookForFood
  | lookForCreature
  | move
  | eat
  | attack
  | reproduce
  | invert
deriving DecidableEq, Inhabited

namespace Gene

def all : List Gene :=
  [nop, lookForFood, lookForCreature, move, eat, attack, reproduce, invert]

def code : Gene → Nat
  | nop => 0
  | lookForFood => 1
  | lookForCreature => 2
  | move => 3
  | eat => 4
  | attack => 5
  | reproduce => 6
  | invert => 7

def ofFin : Fin 8 → Gene
  | 0 => nop
  | 1 => lookForFood
  | 2 => lookForCreature
  | 3 => move
  | 4 => eat
  | 5 => attack
  | 6 => reproduce
  | 7 => invert

def ofCode? (value : Int) : Option Gene :=
  if bounds : 0 ≤ value ∧ value < 8 then
    some (ofFin ⟨value.toNat, by omega⟩)
  else
    none

def name : Gene → String
  | nop => "NOP"
  | lookForFood => "LOOK_FOR_FOOD"
  | lookForCreature => "LOOK_FOR_CREATURE"
  | move => "MOVE"
  | eat => "EAT"
  | attack => "ATTACK"
  | reproduce => "REPRODUCE"
  | invert => "INVERT"

def label : Gene → String
  | nop => "Nop"
  | lookForFood => "LookForFood"
  | lookForCreature => "LookForCreature"
  | move => "Move"
  | eat => "Eat"
  | attack => "Attack"
  | reproduce => "Reproduce"
  | invert => "Invert"

/-- The longest program that a creature may be born with. -/
def maxProgram : Nat := 16

theorem code_ofFin (value : Fin 8) : (ofFin value).code = value := by
  revert value
  decide

end Gene

/-- One entry of a program: a gene, or a value that is none. -/
inductive Codon where
  | gene (held : Gene)
  | number (value : Int)
  | word (text : String)
  | missing
deriving DecidableEq, Inhabited

namespace Codon

def isGene : Codon → Bool
  | .gene _ => true
  | _ => false

/-- The gene that an entry acts as: the gene itself, or the one of which a
number is the code. -/
def meaning? : Codon → Option Gene
  | .gene held => some held
  | .number value => Gene.ofCode? value
  | _ => none

/-- The program of every seeded creature. -/
def starter : List Codon := [gene .eat, gene .reproduce]

theorem isGene_iff {codon : Codon} :
    codon.isGene = true ↔ ∃ held, codon = gene held := by
  cases codon <;> simp [isGene]

end Codon

end Vivarium
