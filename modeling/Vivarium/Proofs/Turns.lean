import Vivarium.Proofs.Consistent
import Vivarium.Proofs.Effect
import Vivarium.Proofs.Loops

/-!
# Whole turns

A turn is a chain of the effects of genes, and then the upkeep. From a state
that is in order no gene fails, and each effect leaves the state in order; so
a turn goes through and ends in one of few ways.
-/

namespace Vivarium

namespace Consistent

variable {world : World} {store : Store} {issued : Nat}
  {out : Option Creature} {creature : Creature}

/-- A creature that a mark leads to stands on that very tile. -/
theorem position_eq (consistent : Consistent world store issued out)
    {position : Position}
    (occupied : world.occupant? position = some creature.handle)
    (known : store.get creature.handle = some creature) :
    creature.position = position := by
  obtain ⟨resident, found, -, placed⟩ :=
    consistent.settled.resolved occupied
  rcases consistent.resident_of_get known with ⟨present, -⟩
  have same : creature = resident :=
    Option.some.inj (present.symm.trans found)
  rw [same, placed]

theorem viable_of_get (consistent : Consistent world store issued out)
    {handle : Handle} (known : store.get handle = some creature) :
    creature.Viable :=
  consistent.settled.viable (consistent.resident_of_get known).1

end Consistent

variable {σ : Type}

namespace Turn

variable {turn after : Turn σ}

/-- A turn whose actor is the only creature out of the store, in a state that
is otherwise consistent. -/
def InOrder (turn : Turn σ) : Prop :=
  Consistent turn.world turn.store turn.issued (some turn.actor)

theorem InOrder.consistent (inOrder : turn.InOrder) :
    Consistent turn.world turn.store turn.issued (some turn.actor) :=
  inOrder

theorem InOrder.onGrid (inOrder : turn.InOrder) :
    turn.world.contains turn.actor.position = true :=
  inOrder.consistent.settled.contains inOrder.consistent.actor_present

theorem InOrder.viable (inOrder : turn.InOrder) : turn.actor.Viable :=
  inOrder.consistent.settled.viable inOrder.consistent.actor_present

/-! ## Genes -/

section Genes

variable [Dice σ]

theorem succeeds_perform (inOrder : turn.InOrder) (gene : Gene) :
    (perform gene).Succeeds turn fun _ after => Effect turn gene after := by
  have onGrid := inOrder.onGrid
  have viable := inOrder.viable
  cases gene with
  | nop =>
      exact Effect.idle
  | lookForFood =>
      exact (ends_sense foodReading_byte onGrid).2 Effect.foraged
  | lookForCreature =>
      exact (ends_sense creatureReading_byte onGrid).2 Effect.scouted
  | move =>
      exact succeeds_move onGrid
  | eat =>
      exact succeeds_eat onGrid
  | attack =>
      exact succeeds_attack onGrid
  | reproduce =>
      exact succeeds_reproduce onGrid viable.program
  | invert =>
      exact (ends_invert viable.sensors).2 Effect.inverted

/-- An actor keeps its name, its program and its diet. -/
theorem Effect.actor_kept {gene : Gene} (effect : Effect turn gene after) :
    after.actor.handle = turn.actor.handle ∧
      after.actor.program = turn.actor.program ∧
      after.actor.diet = turn.actor.diet := by
  cases effect <;> exact ⟨rfl, rfl, rfl⟩

/-- The energy of an actor never falls below zero while it acts. -/
private theorem Effect.energy_nonneg (inOrder : turn.InOrder) {gene : Gene}
    (effect : Effect turn gene after) : 0 ≤ after.actor.energy := by
  have energy := inOrder.viable.energy
  cases effect with
  | ate found unoccupied =>
      have food := inOrder.consistent.settled.fed found
      show 0 ≤ turn.actor.energy + min eatQuota _
      unfold eatQuota
      omega
  | wounded occupied known strong =>
      show 0 ≤ turn.actor.energy + attackDamage
      unfold attackDamage
      omega
  | killed occupied known weak =>
      have victimEnergy :=
        (inOrder.consistent.viable_of_get known).energy
      exact Int.add_nonneg energy victimEnergy
  | bred able unoccupied mutated inherits born =>
      show 0 ≤ turn.actor.energy + -reproduceCost
      unfold reproduceThreshold at able
      unfold reproduceCost
      omega
  | _ =>
      exact energy

theorem Effect.inOrder (inOrder : turn.InOrder) {gene : Gene}
    (effect : Effect turn gene after) : after.InOrder := by
  have energy := effect.energy_nonneg inOrder
  have consistent := inOrder.consistent
  have onGrid := contains_target inOrder.onGrid
  rcases inOrder.viable with ⟨program, _, sensors, diet⟩
  cases effect with
  | idle | blocked | missed | unresolved | tired =>
      exact inOrder
  | foraged =>
      exact consistent.reviseActor rfl rfl
        ⟨program, energy, inRange_readings foodReading_byte, diet⟩
  | scouted =>
      exact consistent.reviseActor rfl rfl
        ⟨program, energy, inRange_readings creatureReading_byte, diet⟩
  | inverted =>
      exact consistent.reviseActor rfl rfl
        ⟨program, energy, Sensors.inRange_mirrored _, diet⟩
  | moved unoccupied =>
      exact consistent.relocateActor onGrid unoccupied
  | @ate tile found unoccupied =>
      have enough : ∀ {tile'},
          turn.world.tile? turn.target = some tile' →
            0 ≤ tile'.food + -min eatQuota tile.food := by
        intro tile' found'
        obtain rfl := Option.some.inj (found.symm.trans found')
        omega
      exact (consistent.feed enough).reviseActor rfl rfl
        ⟨program, energy, sensors, diet⟩
  | @wounded victim occupied known strong =>
      obtain ⟨victimProgram, _, victimSensors, victimDiet⟩ :=
        consistent.viable_of_get known
      have victimEnergy : 0 ≤ victim.energy - attackDamage := by
        omega
      have hurt :
          Consistent turn.world
            (turn.store.set victim.handle
              { victim with energy := victim.energy - attackDamage })
            turn.issued (some turn.actor) :=
        consistent.reviseStored known rfl rfl
          ⟨victimProgram, victimEnergy, victimSensors, victimDiet⟩
      exact hurt.reviseActor rfl rfl ⟨program, energy, sensors, diet⟩
  | killed occupied known weak =>
      have placed := consistent.position_eq occupied known
      have killed := consistent.kill known
      rw [placed] at killed
      exact killed.reviseActor rfl rfl ⟨program, energy, sensors, diet⟩
  | @bred _ _ child able unoccupied mutated inherits born =>
      have placed : child.position = turn.target :=
        congrArg Creature.position born
      have named : child.handle = (turn.store.allocate turn.issued).1 :=
        congrArg Creature.handle born
      have viable : child.Viable := by
        rw [born]
        exact Creature.viable_born (inherits.checkProgram program)
      rw [← placed] at onGrid unoccupied
      have spawned := consistent.spawn named onGrid unoccupied viable
      rw [placed] at spawned
      exact spawned.reviseActor rfl rfl ⟨program, energy, sensors, diet⟩

end Genes

/-! ## Programs -/

/-- A later state of a turn, as long as its program runs. -/
structure Follows (turn after : Turn σ) : Prop where
  inOrder : after.InOrder
  handle : after.actor.handle = turn.actor.handle
  program : after.actor.program = turn.actor.program
  diet : after.actor.diet = turn.actor.diet

theorem InOrder.follows_self (inOrder : turn.InOrder) :
    turn.Follows turn :=
  ⟨inOrder, rfl, rfl, rfl⟩

section Programs

variable [Dice σ]

theorem Follows.step {middle : Turn σ} (follows : turn.Follows middle)
    {gene : Gene} (effect : Effect middle gene after) :
    turn.Follows after := by
  rcases effect.actor_kept with ⟨sameHandle, sameProgram, sameDiet⟩
  exact
    { inOrder := effect.inOrder follows.inOrder
      handle := sameHandle.trans follows.handle
      program := sameProgram.trans follows.program
      diet := sameDiet.trans follows.diet }

theorem succeeds_carryOut (inOrder : turn.InOrder)
    {codon : Codon} {gene : Gene} (means : codon.meaning? = some gene) :
    (carryOut codon).Succeeds turn fun _ after =>
      Effect turn gene after := by
  rw [carryOut, means]
  exact succeeds_perform inOrder gene

/-- The entries that an actor carries out in its turn, each with the turn as
it is then. An actor without energy carries out none. -/
def genes (turn : Turn σ) : List (Codon × Turn σ) :=
  if turn.actor.energy = 0 then []
  else Act.trace carryOut turn.actor.program turn

theorem ends_runProgram (inOrder : turn.InOrder)
    {post : Unit → Turn σ → Prop} {fail : Fault → Turn σ → Prop} :
    runProgram.Ends turn post fail ↔
      (turn.actor.program.forM carryOut).Ends turn post fail := by
  obtain ⟨nonempty, short, -⟩ :=
    Codon.checkProgram_eq_ok_iff.1 inOrder.viable.program
  rw [runProgram, Act.ends_bind, Act.ends_get, if_pos ⟨nonempty, short⟩]

theorem apply_runProgram (inOrder : turn.InOrder) :
    runProgram.apply turn =
      (turn.actor.program.forM carryOut).apply turn := by
  obtain ⟨nonempty, short, -⟩ :=
    Codon.checkProgram_eq_ok_iff.1 inOrder.viable.program
  rw [runProgram, Act.apply_bind]
  change (ite _ _ _ : Act (Turn σ) Unit).apply turn = _
  rw [if_pos ⟨nonempty, short⟩]

section Runs

variable (kept : Turn σ → Prop) (inOrder : turn.InOrder)
  (step : ∀ {before gene after}, turn.Follows before →
    .gene gene ∈ turn.actor.program → Effect before gene after →
    kept before → kept after)
include inOrder step

/-- One entry of the program, at any time while the program runs. -/
private theorem succeeds_carryOut_of_follows :
    ∀ codon ∈ turn.actor.program, ∀ before,
      turn.Follows before ∧ kept before →
        (carryOut codon).Succeeds before fun _ after =>
          turn.Follows after ∧ kept after := by
  intro codon member before reached
  rcases reached with ⟨follows, keptBefore⟩
  rcases inOrder.viable.exists_gene member with ⟨gene, rfl⟩
  refine (succeeds_carryOut follows.inOrder rfl).mono ?_
  intro _ after effect
  exact ⟨follows.step effect, step follows member effect keptBefore⟩

/-- A program goes through, and what each of its genes keeps is kept. -/
theorem succeeds_runProgram_kept (start : kept turn) :
    runProgram.Succeeds turn fun _ after =>
      turn.Follows after ∧ kept after := by
  rw [Act.Succeeds, ends_runProgram inOrder]
  exact Act.succeeds_forM ⟨inOrder.follows_self, start⟩
    (succeeds_carryOut_of_follows kept inOrder step)

theorem kept_of_mem_genes (start : kept turn) {entry : Codon × Turn σ}
    (member : entry ∈ turn.genes) :
    entry.1 ∈ turn.actor.program ∧ turn.Follows entry.2 ∧
      kept entry.2 := by
  unfold genes at member
  split at member
  · cases member
  · exact Act.kept_of_mem_trace ⟨inOrder.follows_self, start⟩
      (succeeds_carryOut_of_follows kept inOrder step) member

end Runs

theorem succeeds_runProgram (inOrder : turn.InOrder) :
    runProgram.Succeeds turn fun _ after => turn.Follows after := by
  refine (succeeds_runProgram_kept (fun _ => True) inOrder
    (fun _ _ _ _ => trivial) trivial).mono ?_
  intro _ after reached
  exact reached.1

theorem follows_of_mem_genes (inOrder : turn.InOrder)
    {entry : Codon × Turn σ} (member : entry ∈ turn.genes) :
    entry.1 ∈ turn.actor.program ∧ turn.Follows entry.2 := by
  obtain ⟨listed, follows, -⟩ :=
    kept_of_mem_genes (fun _ => True) inOrder (fun _ _ _ _ => trivial)
      trivial member
  exact ⟨listed, follows⟩

end Programs

/-! ## Upkeep -/

inductive Upkeep (turn : Turn σ) : Life → Turn σ → Prop where
  | paid (solvent : turn.actor.metabolism < turn.actor.energy) :
      Upkeep turn .alive
        { turn with
          world := turn.world.update turn.actor.position fun tile =>
            { tile with food := tile.food + turn.actor.metabolism }
          actor.energy := turn.actor.energy + -turn.actor.metabolism }
  | starved (broke : turn.actor.energy ≤ turn.actor.metabolism) :
      Upkeep turn .dead
        { turn with
          world :=
            (turn.world.update turn.actor.position fun tile =>
              { tile with
                food := tile.food + turn.actor.energy }).setOccupant
              turn.actor.position none
          store := (turn.store.release turn.actor.handle).2
          tally := turn.tally.merge { Tally.zero with starvations := 1 }
          journal :=
            .starved turn.actor.handle turn.actor.position :: turn.journal
          actor.energy := turn.actor.energy + -turn.actor.energy }

theorem succeeds_payUpkeep (inOrder : turn.InOrder) :
    payUpkeep.Succeeds turn (Upkeep turn) := by
  rcases World.exists_tile? inOrder.onGrid with ⟨tile, found⟩
  have kept := inOrder.consistent.holds_actor
  rw [payUpkeep, Act.Succeeds, Act.ends_bind, Act.ends_get, Act.ends_bind,
    ends_shared, Habitat.ends_inspect found]
  by_cases broke : turn.actor.energy ≤ turn.actor.metabolism
  · rw [if_pos broke]
    simp only [Act.ends_bind, ends_shared, Habitat.ends_addFood, ends_gain,
      Habitat.ends_occupy]
    refine (Habitat.ends_release ?_).2 ?_
    · exact kept
    · exact Upkeep.starved broke
  · rw [if_neg broke]
    exact Upkeep.paid (Int.not_le.1 broke)

/-- An actor that has paid is still out of the store, and in order. -/
theorem Upkeep.inOrder (inOrder : turn.InOrder)
    (upkeep : Upkeep turn .alive after) :
    after.InOrder ∧ after.actor.handle = turn.actor.handle := by
  rcases inOrder.viable with ⟨program, _, sensors, diet⟩
  cases upkeep with
  | paid solvent =>
      have charge := Creature.metabolism_pos turn.actor
      have enough : ∀ {tile},
          turn.world.tile? turn.actor.position = some tile →
            0 ≤ tile.food + turn.actor.metabolism := by
        intro tile found
        have fed := inOrder.consistent.settled.fed found
        omega
      have energy : 0 ≤ turn.actor.energy + -turn.actor.metabolism := by
        omega
      refine ⟨?_, rfl⟩
      exact (inOrder.consistent.feed enough).reviseActor rfl rfl
        ⟨program, energy, sensors, diet⟩

/-- After a starvation nobody is out of the store. -/
theorem Upkeep.consistent (inOrder : turn.InOrder)
    (upkeep : Upkeep turn .dead after) :
    Consistent after.world after.store after.issued none := by
  have energy := inOrder.viable.energy
  cases upkeep with
  | starved broke =>
      have enough : ∀ {tile},
          turn.world.tile? turn.actor.position = some tile →
            0 ≤ tile.food + turn.actor.energy := by
        intro tile found
        have fed := inOrder.consistent.settled.fed found
        omega
      exact (inOrder.consistent.feed enough).removeActor

/-! ## Turns from beginning to end -/

section Turns

variable [Dice σ]

inductive Played (turn : Turn σ) : Life → Turn σ → Prop where
  | faded (spent : turn.actor.energy = 0) : Played turn .dead turn
  | ended {middle after : Turn σ} {life : Life}
      (lively : turn.actor.energy ≠ 0)
      (ran : runProgram.apply turn = (.ok (), middle))
      (follows : turn.Follows middle) (upkeep : Upkeep middle life after) :
      Played turn life after

/-- From a state that is in order a whole turn goes through. -/
theorem succeeds_play (inOrder : turn.InOrder) :
    play.Succeeds turn (Played turn) := by
  rw [play, Act.Succeeds, Act.ends_bind, Act.ends_get]
  by_cases spent : turn.actor.energy = 0
  · rw [if_pos spent]
    exact Played.faded spent
  · obtain ⟨_, middle, ran, follows⟩ :=
      (succeeds_runProgram inOrder).exists_apply
    rw [if_neg spent, Act.ends_bind, Act.Ends, ran]
    refine (succeeds_payUpkeep follows.inOrder).mono ?_
    intro life after upkeep
    exact Played.ended spent ran follows upkeep

/-- A survivor is still out of the store, and in order. -/
theorem Played.inOrder (played : Played turn .alive after) :
    after.InOrder ∧ after.actor.handle = turn.actor.handle := by
  cases played with
  | ended lively ran follows upkeep =>
      rcases upkeep.inOrder follows.inOrder with ⟨afterInOrder, named⟩
      exact ⟨afterInOrder, named.trans follows.handle⟩

/-- One that dies in its turn has starved, and is gone. -/
theorem Played.consistent (played : Played turn .dead after)
    (lively : turn.actor.energy ≠ 0) :
    Consistent after.world after.store after.issued none := by
  cases played with
  | faded spent =>
      exact absurd spent lively
  | ended lively ran follows upkeep =>
      exact upkeep.consistent follows.inOrder

end Turns

end Turn

end Vivarium
