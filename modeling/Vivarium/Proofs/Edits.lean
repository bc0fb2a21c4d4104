import Vivarium.Proofs.Ends
import Vivarium.Proofs.Pedigrees
import Vivarium.Proofs.Rolls

/-!
# Edits of a program

A program is handed on with one edit at most, and which one it is can be told
from the rolls. Every edit comes about by some rolls, and nothing else does.
The roll for an appended gene is made at the greatest length too, where it does
not count. So programs never get shorter from one hand to the next.
-/

namespace Vivarium

namespace Gene

private theorem code_lt (gene : Gene) : gene.code < 8 := by
  cases gene <;> decide

private theorem ofFin_code
    (gene : Gene) : ofFin ⟨gene.code, gene.code_lt⟩ = gene := by
  cases gene <;> rfl

end Gene

namespace Codon

/-- What becomes of a program, together with the rolls that decide it, in the
order in which they are made. -/
inductive Edits (parent : List Codon) : List Draw → List Codon → Prop where
  | copied {chance : Nat} (inside : chance < 100)
      (spared : mutationChance ≤ chance) :
      Edits parent [⟨99, chance⟩] parent
  | overwritten {chance appendRoll index : Nat} (held : Gene)
      (changed : chance < mutationChance) (inside : appendRoll < 100)
      (refused : Gene.maxProgram ≤ parent.length ∨
        newGeneChance ≤ appendRoll)
      (present : index < parent.length) :
      Edits parent
        [⟨99, chance⟩, ⟨7, held.code⟩, ⟨99, appendRoll⟩,
          ⟨parent.length - 1, index⟩]
        (parent.set index (gene held))
  | appended {chance appendRoll : Nat} (held : Gene)
      (changed : chance < mutationChance)
      (room : parent.length < Gene.maxProgram)
      (granted : appendRoll < newGeneChance) :
      Edits parent [⟨99, chance⟩, ⟨7, held.code⟩, ⟨99, appendRoll⟩]
        (parent ++ [gene held])

variable {parent child : List Codon} {draws : List Draw}

/-- The edits of a program by the number of rolls that they take. -/
private theorem exists_edits_iff {rolls : Nat} :
    (∃ draws, Edits parent draws child ∧ draws.length = rolls) ↔
      rolls = 1 ∧ child = parent ∨
        (rolls = 4 ∧ ∃ index < parent.length, ∃ held,
          child = parent.set index (gene held)) ∨
        rolls = 3 ∧ parent.length < Gene.maxProgram ∧
          ∃ held, child = parent ++ [gene held] := by
  constructor
  · rintro ⟨draws, edits, rfl⟩
    cases edits with
    | copied inside spared =>
        exact Or.inl ⟨rfl, rfl⟩
    | overwritten held changed inside refused present =>
        exact Or.inr (Or.inl ⟨rfl, _, present, held, rfl⟩)
    | appended held changed room granted =>
        exact Or.inr (Or.inr ⟨rfl, room, held, rfl⟩)
  · rintro (⟨rfl, rfl⟩ | ⟨rfl, index, present, held, rfl⟩ |
      ⟨rfl, room, held, rfl⟩)
    · exact ⟨_, .copied (show 99 < 100 by decide) (by decide), rfl⟩
    · exact ⟨_, .overwritten held (show 0 < mutationChance by decide)
        (show 99 < 100 by decide) (Or.inr (by decide)) present, rfl⟩
    · exact ⟨_, .appended held (show 0 < mutationChance by decide) room
        (show 0 < newGeneChance by decide), rfl⟩

/-- Every roll shows a side of its die. -/
private theorem Edits.le_highest (edits : Edits parent draws child) :
    ∀ draw ∈ draws, draw.value ≤ draw.highest := by
  cases edits with
  | copied inside spared =>
      simp only [List.forall_mem_singleton]
      omega
  | overwritten held changed inside refused present =>
      have chance := Nat.lt_trans changed (show mutationChance < 100 by decide)
      have code := held.code_lt
      simp only [List.forall_mem_cons, List.not_mem_nil, false_imp_iff,
        implies_true, and_true]
      omega
  | appended held changed room granted =>
      have chance := Nat.lt_trans changed (show mutationChance < 100 by decide)
      have roll := Nat.lt_trans granted (show newGeneChance < 100 by decide)
      have code := held.code_lt
      simp only [List.forall_mem_cons, List.not_mem_nil, false_imp_iff,
        implies_true, and_true]
      omega

end Codon

/-! ## Rolls and edits -/

section Rolls

open Codon

variable {parent child : List Codon} {draws : List Draw}

/-- Whatever is rolled, an edit is made. -/
theorem exists_edits_of_mutate {τ : Type} [Dice τ]
    (nonempty : 0 < parent.length) (dice : Recorded τ) :
    ∃ child draws after, mutate parent dice = (.ok child, after) ∧
      after.draws = draws.reverse ++ dice.draws ∧
        Edits parent draws child := by
  unfold mutate
  obtain ⟨chance, source, rolled⟩ :=
    Dice.roll_recorded dice (show 0 < 100 by decide)
  rw [rolled]
  dsimp only
  split
  · next spared =>
    exact ⟨parent, [⟨99, chance⟩], _, rfl, rfl, .copied chance.isLt spared⟩
  · next unspared =>
    have changed : chance.val < mutationChance := Nat.lt_of_not_le unspared
    obtain ⟨code, source, rolled⟩ := Dice.roll_recorded
      (⟨source, ⟨99, chance⟩ :: dice.draws⟩ : Recorded τ)
      (show 0 < 8 by decide)
    rw [rolled]
    dsimp only
    obtain ⟨appendRoll, source, rolled⟩ := Dice.roll_recorded
      (⟨source, ⟨7, code⟩ :: ⟨99, chance⟩ :: dice.draws⟩ : Recorded τ)
      (show 0 < 100 by decide)
    rw [rolled]
    dsimp only
    have named := Gene.code_ofFin code
    split
    · next granted =>
      have appended :=
        Edits.appended (Gene.ofFin code) changed granted.1 granted.2
      rw [named] at appended
      exact ⟨_, _, _, rfl, rfl, appended⟩
    · next refused =>
      rw [not_and_or, Nat.not_lt, Nat.not_lt] at refused
      obtain ⟨index, source, rolled⟩ := Dice.roll_recorded
        (⟨source,
          ⟨99, appendRoll⟩ :: ⟨7, code⟩ :: ⟨99, chance⟩ :: dice.draws⟩ :
            Recorded τ) nonempty
      rw [rolled]
      have overwritten := Edits.overwritten (Gene.ofFin code) changed
        appendRoll.isLt refused index.isLt
      rw [named] at overwritten
      exact ⟨_, _, _, rfl, rfl, overwritten⟩

/-- Every edit is made by some rolls. -/
theorem Codon.Edits.exists_script (edits : Edits parent draws child) :
    ∃ after, mutate parent (⟨.ofDraws draws, []⟩ : Recorded Script) =
        (.ok child, after) ∧ after.draws = draws.reverse := by
  unfold mutate
  cases edits with
  | copied inside spared =>
      rw [Script.ofDraws, Dice.roll_script rfl inside]
      dsimp only
      rw [if_pos spared]
      exact ⟨_, rfl, rfl⟩
  | overwritten held changed inside refused present =>
      rw [Script.ofDraws,
        Dice.roll_script rfl (Nat.lt_trans changed (by decide))]
      dsimp only
      rw [if_neg (Nat.not_le.2 changed), Dice.roll_script rfl held.code_lt]
      dsimp only
      rw [Dice.roll_script rfl inside]
      dsimp only
      rw [if_neg (by omega), dif_pos (Nat.zero_lt_of_lt present),
        Dice.roll_script rfl present, Gene.ofFin_code]
      exact ⟨_, rfl, rfl⟩
  | appended held changed room granted =>
      rw [Script.ofDraws,
        Dice.roll_script rfl (Nat.lt_trans changed (by decide))]
      dsimp only
      rw [if_neg (Nat.not_le.2 changed), Dice.roll_script rfl held.code_lt]
      dsimp only
      rw [Dice.roll_script rfl (Nat.lt_trans granted (by decide))]
      dsimp only
      rw [if_pos ⟨room, granted⟩, Gene.ofFin_code]
      exact ⟨_, rfl, rfl⟩

end Rolls

/-! ## From hand to hand -/

section Lines

open Codon

variable {σ : Type} [Dice σ]

/-- The programs that come of one that is handed on so many times, each of
them by the holder of the one before. -/
def descend : (times : Nat) → (parent : List Codon) →
    Act σ (List (List Codon))
  | 0, _ => return []
  | times + 1, parent => do
    let child ← Act.ofStep (mutate parent)
    let later ← descend times child
    return child :: later

structure Codon.Line (parent : List Codon) (times : Nat)
    (programs : List (List Codon)) : Prop where
  length : programs.length = times
  grows : (parent :: programs).Pairwise fun earlier later =>
    earlier.length ≤ later.length
  bounded : ∀ program ∈ programs,
    parent.length ≤ program.length ∧ program.length ≤ Gene.maxProgram

theorem Codon.Line.cons {parent child : List Codon} {times : Nat}
    {programs : List (List Codon)} (inherits : Inherits parent child)
    (short : child.length ≤ Gene.maxProgram)
    (line : Line child times programs) :
    Line parent (times + 1) (child :: programs) where
  length := congrArg Nat.succ line.length
  grows := by
    refine List.pairwise_cons.2 ⟨?_, line.grows⟩
    intro program listed
    rcases List.mem_cons.1 listed with rfl | later
    · exact inherits.length_le
    · exact Nat.le_trans inherits.length_le (line.bounded program later).1
  bounded := by
    intro program listed
    rcases List.mem_cons.1 listed with rfl | later
    · exact ⟨inherits.length_le, short⟩
    · obtain ⟨longer, bounded⟩ := line.bounded program later
      exact ⟨Nat.le_trans inherits.length_le longer, bounded⟩

/-- However often a program is handed on, whatever is rolled. -/
private theorem succeeds_descend {parent : List Codon}
    (sized : 1 ≤ parent.length ∧ parent.length ≤ Gene.maxProgram)
    (times : Nat) (dice : σ) :
    (descend times parent).Succeeds dice fun programs _ =>
      Line parent times programs := by
  induction times generalizing parent dice with
  | zero =>
      exact ⟨rfl, List.pairwise_singleton _ _, nofun⟩
  | succ times inductionHypothesis =>
      obtain ⟨child, after, mutated, inherits⟩ := mutate_inherits sized.1 dice
      have childSized := closed_sized 1 inherits sized
      rw [descend, Act.Succeeds, Act.ends_bind, Act.ends_ofStep mutated,
        Act.ends_bind]
      refine (inductionHypothesis childSized after).mono ?_
      intro programs last line
      exact line.cons inherits childSized.2

/-- All that can come of a program. -/
structure Codon.EditsOnce (parent : List Codon) : Prop where
  /-- Whatever is rolled there is an offspring, and the rolls that are made for
  it belong to an edit. -/
  made : ∀ {τ : Type} [Dice τ] (dice : Recorded τ),
    ∃ child draws after, mutate parent dice = (.ok child, after) ∧
      after.draws = draws.reverse ++ dice.draws ∧
        Edits parent draws child
  /-- Every roll asks for a die that has sides, and shows one of them. -/
  inside : ∀ {draws child}, Edits parent draws child →
    ∀ draw ∈ draws, draw.value ≤ draw.highest
  reached : ∀ {draws child}, Edits parent draws child →
    ∃ (dice : Script) (after : Recorded Script),
      mutate parent (⟨dice, []⟩ : Recorded Script) = (.ok child, after) ∧
        after.draws = draws.reverse
  /-- A copy takes one roll, a gene that is overwritten four, and one that is
  appended three. -/
  offspring : ∀ child rolls,
    (∃ draws, Edits parent draws child ∧ draws.length = rolls) ↔
      rolls = 1 ∧ child = parent ∨
        (rolls = 4 ∧ ∃ index < parent.length, ∃ held,
          child = parent.set index (gene held)) ∨
        rolls = 3 ∧ parent.length < Gene.maxProgram ∧
          ∃ held, child = parent ++ [gene held]
  /-- However often the program is handed on, whatever is rolled. -/
  line : ∀ {τ : Type} [Dice τ] (times : Nat) (dice : τ),
    (descend times parent).Succeeds dice fun programs _ =>
      Line parent times programs

theorem mutate_edits_once {parent : List Codon}
    (sized : 1 ≤ parent.length ∧ parent.length ≤ Gene.maxProgram) :
    EditsOnce parent where
  made := exists_edits_of_mutate sized.1
  inside := Edits.le_highest
  reached edits := ⟨_, edits.exists_script⟩
  offspring _ _ := exists_edits_iff
  line := succeeds_descend sized

/-- At the greatest length a gene is overwritten although the roll is for an
appended one. -/
theorem full_program_edited :
    let parent := List.replicate 16 (gene .nop)
    let draws : List Draw := [⟨99, 0⟩, ⟨7, 7⟩, ⟨99, 0⟩, ⟨15, 7⟩]
    ∃ dice after,
      mutate parent (⟨dice, []⟩ : Recorded Script) =
          (.ok (parent.set 7 (gene .invert)), after) ∧
        after.draws = draws.reverse ∧ EditsOnce parent := by
  intro parent draws
  have once : EditsOnce parent := mutate_edits_once (by decide)
  have edits : Edits parent draws (parent.set 7 (gene .invert)) :=
    .overwritten .invert (by decide) (by decide) (Or.inl (by decide))
      (by decide)
  obtain ⟨dice, after, mutated, rolls⟩ := once.reached edits
  exact ⟨dice, after, mutated, rolls, once⟩

end Lines

end Vivarium
