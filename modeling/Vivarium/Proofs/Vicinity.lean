import Vivarium.Proofs.Footprint
import Vivarium.Proofs.Strikes

/-!
# The vicinity of a turn

How far a creature gets in its turn: no further than one step from where its
steps can lead it. Tiles beyond that stay as they are, and so do the creatures
that stand there.
-/

namespace Vivarium

namespace Extent

inductive Within (extent : Extent) (origin : Position) :
    Nat → Position → Prop where
  | here {steps : Nat} : Within extent origin steps origin
  | step {steps : Nat} {position : Position} (direction : Direction)
      (earlier : Within extent origin steps position) :
      Within extent origin (steps + 1)
        (extent.neighbor position direction.offset)

theorem Within.mono {extent : Extent} {origin position : Position}
    {steps more : Nat} (within : extent.Within origin steps position)
    (notFewer : steps ≤ more) : extent.Within origin more position := by
  induction within generalizing more with
  | here =>
      exact .here
  | step direction earlier inductionHypothesis =>
      cases more with
      | zero =>
          omega
      | succ more =>
          exact .step direction (inductionHypothesis (by omega))

/-- One step leads to where one is or to a neighbour. -/
theorem Within.of_one {extent : Extent} {origin position : Position}
    (within : extent.Within origin 1 position) :
    position = origin ∨
      ∃ direction : Direction,
        position = extent.neighbor origin direction.offset := by
  cases within with
  | here =>
      exact Or.inl rfl
  | step direction earlier =>
      cases earlier with
      | here =>
          exact Or.inr ⟨direction, rfl⟩

end Extent

namespace Turn

variable {σ : Type}

/-- The positions that a creature can get at in its turn: so many steps away
as its program has moves, and one step further. -/
def Near (turn : Turn σ) (position : Position) : Prop :=
  turn.world.extent.Within turn.actor.position
    (turn.actor.program.count (.gene .move) + 1) position

/-- A turn has got from one state to another, and these entries of its program
are left. The moves made so far and those to come are no more than there are in
the program. -/
structure Ranges (turn now : Turn σ) (rest : List Codon) : Prop where
  follows : turn.Follows now
  extent : now.world.extent = turn.world.extent
  left : rest <:+ turn.actor.program
  within : ∃ used,
    used + rest.count (.gene .move) ≤
        turn.actor.program.count (.gene .move) ∧
      turn.world.extent.Within turn.actor.position used now.actor.position

variable {turn now after : Turn σ} {rest : List Codon} {gene : Gene}

theorem InOrder.ranges (inOrder : turn.InOrder) :
    turn.Ranges turn turn.actor.program where
  follows := inOrder.follows_self
  extent := rfl
  left := List.suffix_rfl
  within := ⟨0, by simp, .here⟩

namespace Ranges

theorem near_neighbor (ranges : turn.Ranges now rest)
    (direction : Direction) :
    turn.Near (now.world.neighbor now.actor.position direction.offset) := by
  rcases ranges.within with ⟨used, bound, within⟩
  rw [World.neighbor, ranges.extent]
  exact (within.step direction).mono (by omega)

theorem near_position (ranges : turn.Ranges now rest) :
    turn.Near now.actor.position := by
  rcases ranges.within with ⟨used, bound, within⟩
  exact within.mono (by omega)

variable [Dice σ]

theorem near_target (ranges : turn.Ranges now rest) : turn.Near now.target :=
  ranges.near_neighbor now.heading

private theorem near_of_reaches (ranges : turn.Ranges now rest)
    {position : Position} (reached : now.Reaches gene position) :
    turn.Near position := by
  rcases reached with rfl | ⟨-, -, rfl⟩
  · exact ranges.near_target
  · exact ranges.near_position

end Ranges

theorem Ranges.exists_gene {codon : Codon} (inOrder : turn.InOrder)
    (ranges : turn.Ranges now (codon :: rest)) :
    ∃ gene, codon = .gene gene :=
  inOrder.viable.exists_gene (ranges.left.subset List.mem_cons_self)

section Genes

variable [Dice σ]

/-- Only a move takes the actor elsewhere, and no further than one step. -/
theorem Effect.position_eq (effect : Effect now gene after) :
    after.actor.position = now.actor.position ∨
      gene = .move ∧ after.actor.position = now.target := by
  cases effect with
  | moved unoccupied =>
      exact Or.inr ⟨rfl, rfl⟩
  | _ =>
      exact Or.inl rfl

theorem Ranges.step (ranges : turn.Ranges now (.gene gene :: rest))
    (effect : Effect now gene after) : turn.Ranges after rest where
  follows := ranges.follows.step effect
  extent := effect.extent_eq.trans ranges.extent
  left := (List.suffix_cons _ rest).trans ranges.left
  within := by
    rcases ranges.within with ⟨used, bound, within⟩
    rw [List.count_cons] at bound
    rcases effect.position_eq with stays | ⟨rfl, moves⟩
    · rw [stays]
      exact ⟨used, by omega, within⟩
    · have further := within.step now.heading
      rw [moves, target, World.neighbor, ranges.extent]
      refine ⟨used + 1, ?_, further⟩
      simp at bound
      omega

end Genes

/-! ## Beyond the vicinity -/

/-- Nothing has changed far from the actor. -/
structure Spares (turn now : Turn σ) : Prop where
  tiles : ∀ position, ¬ turn.Near position →
    now.world.tile? position = turn.world.tile? position
  stored : ∀ {handle creature}, turn.store.get handle = some creature →
    ¬ turn.Near creature.position →
      now.store.get handle = some creature

private theorem spares_self (turn : Turn σ) : turn.Spares turn where
  tiles _ _ := rfl
  stored known _ := known

section Turns

variable [Dice σ]

theorem Spares.step (spares : turn.Spares now)
    (ranges : turn.Ranges now rest) (effect : Effect now gene after) :
    turn.Spares after where
  tiles := by
    intro position far
    have outside : ¬ now.Reaches gene position := fun reached =>
      far (ranges.near_of_reaches reached)
    exact (effect.tile?_eq outside).trans (spares.tiles position far)
  stored := by
    intro handle creature known far
    have inOrder := ranges.follows.inOrder
    have known := spares.stored known far
    have spared : gene = .attack →
        now.world.occupant? now.target ≠ some handle := by
      rintro - occupied
      obtain rfl : creature.handle = handle :=
        (Store.get_eq_some_iff.1 known).2
      have placed := inOrder.consistent.position_eq occupied known
      rw [placed] at far
      exact far ranges.near_target
    have listed : gene = .reproduce → handle ∈ now.store.handles :=
      fun _ => inOrder.consistent.mem_handles_iff.2 ⟨creature, known⟩
    exact (effect.get_eq inOrder spared listed).trans known

omit [Dice σ] in
theorem Upkeep.tile?_eq {life : Life} (upkeep : Upkeep turn life after)
    {position : Position} (elsewhere : position ≠ turn.actor.position) :
    after.world.tile? position = turn.world.tile? position := by
  cases upkeep with
  | paid solvent =>
      exact (World.tile?_update _ _ _ _).trans (if_neg (Ne.symm elsewhere))
  | starved broke =>
      exact (World.tile?_setOccupant_of_ne elsewhere).trans
        ((World.tile?_update _ _ _ _).trans (if_neg (Ne.symm elsewhere)))

omit [Dice σ] in
theorem Spares.upkeep (spares : turn.Spares now)
    (ranges : turn.Ranges now rest) {life : Life}
    (upkeep : Upkeep now life after) : turn.Spares after where
  tiles := by
    intro position far
    have elsewhere : position ≠ now.actor.position := by
      rintro rfl
      exact far ranges.near_position
    exact (upkeep.tile?_eq elsewhere).trans (spares.tiles position far)
  stored := by
    intro handle creature known far
    rw [upkeep.get_eq ranges.follows.inOrder]
    exact spares.stored known far

private theorem succeeds_runProgram_spares (inOrder : turn.InOrder) :
    runProgram.Succeeds turn fun _ after =>
      turn.Ranges after [] ∧ turn.Spares after := by
  rw [Act.Succeeds, ends_runProgram inOrder]
  refine Act.succeeds_forM_rest
    (fun rest now => turn.Ranges now rest ∧ turn.Spares now) ?_
    ⟨inOrder.ranges, turn.spares_self⟩
  rintro codon rest now ⟨ranges, spares⟩
  obtain ⟨gene, rfl⟩ := ranges.exists_gene inOrder
  refine (succeeds_carryOut ranges.follows.inOrder rfl).mono ?_
  intro _ after effect
  exact ⟨ranges.step effect, spares.step ranges effect⟩

theorem Played.spares (inOrder : turn.InOrder) {life : Life}
    (played : Played turn life after) : turn.Spares after := by
  cases played with
  | faded spent =>
      exact turn.spares_self
  | ended lively ran follows upkeep =>
      obtain ⟨ranges, spares⟩ :=
        (succeeds_runProgram_spares inOrder).of_apply ran
      exact spares.upkeep ranges upkeep

/-- After a turn the grid and the store are in order, whoever is out. -/
theorem Played.exists_consistent (inOrder : turn.InOrder) {life : Life}
    (played : Played turn life after) :
    ∃ out, Consistent after.world after.store after.issued out := by
  cases played with
  | faded spent =>
      exact ⟨_, inOrder.consistent⟩
  | ended lively ran follows upkeep =>
      cases life with
      | alive =>
          exact ⟨_, (upkeep.inOrder follows.inOrder).1.consistent⟩
      | dead =>
          exact ⟨_, upkeep.consistent follows.inOrder⟩

omit [Dice σ] in
/-- Whoever is stored far from the actor after its turn was so before. -/
theorem Spares.get_iff (inOrder : turn.InOrder) (spares : turn.Spares after)
    {out : Option Creature}
    (consistent : Consistent after.world after.store after.issued out)
    {handle : Handle} {creature : Creature}
    (far : ¬ turn.Near creature.position) :
    after.store.get handle = some creature ↔
      turn.store.get handle = some creature := by
  constructor
  · intro known
    obtain rfl : creature.handle = handle :=
      (Store.get_eq_some_iff.1 known).2
    have marked :=
      consistent.settled.marked (consistent.resident_of_get known).1
    rw [World.occupant?, spares.tiles creature.position far] at marked
    have elsewhere : creature.position ≠ turn.actor.position := by
      intro same
      rw [same] at far
      exact far .here
    obtain ⟨former, before⟩ := inOrder.exists_get marked elsewhere
    have named : former.handle = creature.handle :=
      (Store.get_eq_some_iff.1 before).2
    rw [← named] at marked
    have placed : former.position = creature.position :=
      inOrder.consistent.position_eq marked (by rw [named, before])
    have still := spares.stored before (by rw [placed]; exact far)
    rw [known] at still
    rw [before, still]
  · intro known
    exact spares.stored known far

end Turns

end Turn

end Vivarium
