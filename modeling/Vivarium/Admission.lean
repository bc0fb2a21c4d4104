import Vivarium.Fault.Message

/-!
# Admission

How the handles, genes and programs that a host hands in are checked before
the simulation takes them, or before they are shown.
-/

namespace Vivarium

namespace Handle

/-- A handle from its two parts, where `none` stands for a part that is no
integer. Both parts are checked for that before either is checked for its
sign. -/
def ofParts : (slot generation : Option Int) → Except Fault Handle
  | some slot, some generation =>
    if slot < 0 then .error (Fault.negativeSlot slot).raised
    else if generation < 0 then
      .error (Fault.negativeGeneration generation).raised
    else .ok ⟨slot.toNat, generation.toNat⟩
  | _, _ => .error .handleParts

end Handle

namespace Gene

def ofCode (value : Int) : Except Fault Gene :=
  match ofCode? value with
  | some gene => .ok gene
  | none => .error (Fault.unknownGene value).raised

end Gene

namespace Codon

def label : Codon → Except Fault String
  | .gene held => .ok held.label
  | foreign => .error (.nameless foreign)

def labels (program : List Codon) : Except Fault (List String) :=
  program.mapM label

/-- Refuses a program unless it has 1 to 16 entries, each of them a gene. The
length is checked first. -/
def checkProgram (program : List Codon) : Except Fault Unit :=
  if 1 ≤ program.length ∧ program.length ≤ Gene.maxProgram then
    match program.find? (!·.isGene) with
    | some codon => .error (Fault.foreignCodon codon).raised
    | none => .ok ()
  else
    .error (.programSize program.length)

theorem checkProgram_eq_ok_iff {program : List Codon} :
    checkProgram program = .ok () ↔
      1 ≤ program.length ∧ program.length ≤ Gene.maxProgram ∧
        ∀ codon ∈ program, codon.isGene = true := by
  rw [← and_assoc]
  unfold checkProgram
  split
  · next bounds =>
    split
    · next codon found =>
      have inside := List.mem_of_find?_eq_some found
      have foreign := List.find?_some found
      simp only [Bool.not_eq_true'] at foreign
      simp only [reduceCtorEq, false_iff, not_and]
      intro _ native
      rw [native codon inside] at foreign
      exact Bool.noConfusion foreign
    · next missing =>
      simpa [bounds] using missing
  · next bounds => simp [bounds]

end Codon

end Vivarium
