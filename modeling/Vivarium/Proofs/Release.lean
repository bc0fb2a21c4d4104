import Vivarium.Proofs.Footprint

/-!
# Giving up a slot

A creature keeps its slot through the whole of its program, whatever happens to
the slots around it. It gives the slot up once if it starves, and not at all if
it can pay for its upkeep; one that was dead before its turn is left to the
scene, which then does the same.
-/

namespace Vivarium

variable {σ : Type}

namespace Turn

variable {turn middle finished : Turn σ} {life : Life}

/-- The slot of the actor is in nobody's reach. -/
private theorem InOrder.slot_not_mem_free (inOrder : turn.InOrder) :
    turn.actor.handle.slot ∉ turn.store.free := by
  intro listed
  have vacant := ((inOrder.consistent.settled.mem_free _).1 listed).2
  rw [inOrder.consistent.actor_present] at vacant
  cases vacant

/-- How a turn ends, after a program that has led to `middle`. -/
structure Concluded (turn middle : Turn σ) (life : Life)
    (finished : Turn σ) : Prop where
  alive_iff : life = .alive ↔
    turn.actor.energy ≠ 0 ∧ turn.actor.metabolism < middle.actor.energy
  alive : life = .alive →
    finished.store.isOut turn.actor.handle = true ∧
      finished.world.occupant? finished.actor.position =
        some turn.actor.handle ∧
      turn.actor.handle.slot ∉ finished.store.free ∧
      finished.actor =
        { middle.actor with
          energy := middle.actor.energy - turn.actor.metabolism }
  starved : life = .dead → turn.actor.energy ≠ 0 →
    finished.store.free = turn.actor.handle.slot :: middle.store.free ∧
      finished.store.free.count turn.actor.handle.slot = 1 ∧
      finished.store.get turn.actor.handle = none ∧
      finished.store.isOut turn.actor.handle = false ∧
      finished.actor = { middle.actor with energy := 0 } ∧
      (∃ tile, middle.world.tile? middle.actor.position = some tile ∧
        finished.world.tile? middle.actor.position =
          some ⟨tile.food + middle.actor.energy, none⟩) ∧
      finished.tally.starvations = turn.tally.starvations + 1
  faded : life = .dead → turn.actor.energy = 0 → finished = turn

private theorem Upkeep.alive_iff (upkeep : Upkeep turn life finished) :
    life = .alive ↔ turn.actor.metabolism < turn.actor.energy := by
  cases upkeep with
  | paid solvent =>
      exact iff_of_true rfl solvent
  | starved broke =>
      exact iff_of_false nofun (Int.not_lt.2 broke)

private theorem Upkeep.paid_eq (upkeep : Upkeep turn .alive finished) :
    finished.actor =
      { turn.actor with
        energy := turn.actor.energy - turn.actor.metabolism } := by
  cases upkeep with
  | paid solvent =>
      rfl

/-- What the starved leave behind. -/
private theorem Upkeep.starved_eq (inOrder : turn.InOrder)
    (upkeep : Upkeep turn .dead finished) :
    finished.store.free = turn.actor.handle.slot :: turn.store.free ∧
      finished.actor = { turn.actor with energy := 0 } ∧
      (∃ tile, turn.world.tile? turn.actor.position = some tile ∧
        finished.world.tile? turn.actor.position =
          some ⟨tile.food + turn.actor.energy, none⟩) ∧
      finished.tally.starvations = turn.tally.starvations + 1 := by
  rcases World.exists_tile? inOrder.onGrid with ⟨tile, found⟩
  cases upkeep with
  | starved broke =>
      refine ⟨Store.free_release inOrder.consistent.holds_actor, ?_,
        ⟨tile, found, ?_⟩, rfl⟩
      · dsimp only
        rw [Int.add_right_neg]
      · refine World.tile?_setOccupant_self.trans ?_
        rw [World.tile?_update, if_pos rfl, found]
        rfl

variable [Dice σ]

theorem Effect.starvations_eq {gene : Gene} {after : Turn σ}
    (effect : Effect turn gene after) :
    after.tally.starvations = turn.tally.starvations := by
  cases effect with
  | killed | bred =>
      exact Int.add_zero _
  | _ =>
      rfl

/-- While its program runs a creature is out of the store, and its slot is not
free. -/
private theorem slot_not_mem_free_of_mem_genes (inOrder : turn.InOrder)
    {entry : Codon × Turn σ} (listed : entry ∈ turn.genes) :
    turn.actor.handle.slot ∉ entry.2.store.free := by
  obtain ⟨-, follows⟩ := follows_of_mem_genes inOrder listed
  rw [← follows.handle]
  exact follows.inOrder.slot_not_mem_free

/-- What a program leaves alone. -/
private theorem succeeds_runProgram_starvations (inOrder : turn.InOrder) :
    runProgram.Succeeds turn fun _ after =>
      turn.Follows after ∧
        after.tally.starvations = turn.tally.starvations :=
  succeeds_runProgram_kept _ inOrder
    (fun _ _ effect same => effect.starvations_eq.trans same) rfl

theorem Played.concluded (inOrder : turn.InOrder)
    (ran : runProgram.apply turn = (.ok (), middle))
    (played : Played turn life finished) :
    turn.Concluded middle life finished := by
  obtain ⟨follows, sameCount⟩ :=
    (succeeds_runProgram_starvations inOrder).of_apply ran
  have sameCost : middle.actor.metabolism = turn.actor.metabolism :=
    congrArg Diet.metabolism follows.diet
  cases played with
  | faded spent =>
      refine ⟨iff_of_false nofun fun given => given.1 spent, nofun,
        fun _ lively => absurd spent lively, fun _ _ => rfl⟩
  | ended lively ran' followed upkeep =>
      obtain rfl : middle = _ := congrArg Prod.snd (ran.symm.trans ran')
      have paid := upkeep.alive_iff
      rw [sameCost] at paid
      refine ⟨?_, ?_, ?_, fun _ spent => absurd spent lively⟩
      · rw [paid]
        exact (and_iff_right lively).symm
      · rintro rfl
        obtain ⟨finishedInOrder, sameHandle⟩ :=
          upkeep.inOrder follows.inOrder
        have consistent := finishedInOrder.consistent
        have left := upkeep.paid_eq
        rw [sameCost] at left
        rw [← follows.handle, ← sameHandle]
        exact ⟨Store.isOut_iff.2 consistent.slot_actor,
          consistent.settled.marked consistent.actor_present,
          finishedInOrder.slot_not_mem_free, left⟩
      · rintro rfl -
        obtain ⟨free, actor, tile, starvations⟩ :=
          upkeep.starved_eq follows.inOrder
        have gone := upkeep.consistent follows.inOrder
        have unlisted := follows.inOrder.slot_not_mem_free
        have unknown := upkeep.get_eq follows.inOrder middle.actor.handle
        rw [follows.inOrder.consistent.get_actor] at unknown
        rw [sameCount] at starvations
        rw [← follows.handle]
        refine ⟨free, ?_, unknown, gone.isOut_eq_false _, actor, tile,
          starvations⟩
        rw [free, List.count_cons_self, List.count_eq_zero.2 unlisted]

/-- What the scene makes of a creature after its turn. -/
structure Cleared (turn : Turn σ) (life : Life) (finished : Turn σ)
    (after : Scene σ) : Prop where
  stored : life = .alive →
    after.store.get turn.actor.handle = some finished.actor ∧
      turn.actor.handle.slot ∉ after.store.free
  released : life = .dead →
    after.store.get turn.actor.handle = none ∧
      after.store.isOut turn.actor.handle = false ∧
      after.store.free.count turn.actor.handle.slot = 1

private theorem cleared_of_closed (inOrder : turn.InOrder)
    (played : Played turn life finished)
    (concluded : turn.Concluded middle life finished) {after : Scene σ}
    (closed : Scene.Closed turn finished life after) :
    turn.Cleared life finished after := by
  cases closed with
  | stored =>
      obtain ⟨finishedInOrder, sameHandle⟩ := played.inOrder
      have bound :=
        Store.lt_count_of_holds finishedInOrder.consistent.holds_actor
      have unlisted := finishedInOrder.slot_not_mem_free
      rw [sameHandle] at bound unlisted
      exact ⟨fun _ => ⟨Store.get_set bound sameHandle, unlisted⟩, nofun⟩
  | gone lively =>
      obtain ⟨-, once, unknown, inside, -⟩ := concluded.starved rfl lively
      exact ⟨nofun, fun _ => ⟨unknown, inside, once⟩⟩
  | buried spent idle =>
      have kept := inOrder.consistent.holds_actor
      have unlisted := inOrder.slot_not_mem_free
      refine ⟨nofun, fun _ => ⟨Store.get_release_self kept,
        inOrder.consistent.removeActor.isOut_eq_false _, ?_⟩⟩
      rw [Store.free_release kept, List.count_cons_self,
        List.count_eq_zero.2 unlisted]

/-- A turn from its start until the scene has done with its creature. -/
structure ReleasesOnce (turn : Turn σ) : Prop where
  reserved : ∀ entry ∈ turn.genes,
    turn.actor.handle.slot ∉ entry.2.store.free
  course : ∃ middle life finished after,
    runProgram.apply turn = (.ok (), middle) ∧
      play.apply turn = (.ok life, finished) ∧
      turn.Concluded middle life finished ∧
      (Scene.settle turn.actor.handle life finished.actor).apply
        finished.toScene = (.ok (), after) ∧
      turn.Cleared life finished after

theorem InOrder.releasesOnce (inOrder : turn.InOrder) :
    turn.ReleasesOnce where
  reserved _ listed := slot_not_mem_free_of_mem_genes inOrder listed
  course := by
    obtain ⟨_, middle, ran, -⟩ :=
      (succeeds_runProgram inOrder).exists_apply
    obtain ⟨life, finished, went, played⟩ :=
      (succeeds_play inOrder).exists_apply
    obtain ⟨_, after, settled, closed⟩ :=
      (Scene.succeeds_settle inOrder played).exists_apply
    have concluded := played.concluded inOrder ran
    exact ⟨middle, life, finished, after, ran, went, concluded, settled,
      cleared_of_closed inOrder played concluded closed⟩

end Turn

namespace Engine

variable [Dice σ] {engine : Engine σ}

/-- Whatever is rolled in a turn of some round. -/
theorem turns_release_once (reachable : Reachable engine) {turn : Turn σ}
    (taken : turn ∈ engine.turns) (dice : σ) :
    Turn.ReleasesOnce { turn with dice } := by
  obtain ⟨visit, -, -, turnInOrder, -, -⟩ :=
    exists_visit_of_mem_turns reachable.inOrder taken
  have inOrder : Turn.InOrder { turn with dice } := turnInOrder
  exact inOrder.releasesOnce

/-- A vagrant that cannot pay for its upkeep. -/
theorem vagrant_releases_once :
    ∃ (engine : Engine Script) (turn : Turn Script), turn ∈ engine.turns ∧
      turn.actor.energy = 1 ∧ (Turn.play.apply turn).1 = .ok .dead ∧
      turn.ReleasesOnce := by
  have figures :
      ((couple (⟨#[0], 0⟩ : Script) ([.gene .move], 1)
          ([.gene .nop], 50)).bind fun engine =>
        engine.turns.head?.map fun turn =>
          (turn.actor.energy, (Turn.play.apply turn).1)) =
        some (1, .ok .dead) := by
    decide +kernel
  obtain ⟨engine, paired, figures⟩ := Option.bind_eq_some_iff.1 figures
  obtain ⟨turn, first, told⟩ := Option.map_eq_some_iff.1 figures
  rcases Prod.mk.inj told with ⟨energy, died⟩
  have taken := List.mem_of_mem_head? first
  exact ⟨engine, turn, taken, energy, died,
    turns_release_once (reachable_of_couple paired (by decide) (by decide))
      taken turn.dice⟩

end Engine

end Vivarium
