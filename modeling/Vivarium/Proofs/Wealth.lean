import Vivarium.Proofs.Reachable
import Vivarium.Proofs.Totals

/-!
# Wealth

Food and energy are one and the same currency. Eating, striking, giving birth
and living move it between a tile, an actor, its victim and its offspring;
whatever a creature loses somebody else gains. So a round leaves the sum of all
food and all energy as it was.
-/

namespace Vivarium

variable {σ : Type}

namespace Habitat

/-- All food on the tiles and all energy in the store. -/
def wealth (habitat : Habitat σ) : Int :=
  habitat.world.totalFood + habitat.store.total Creature.energy

end Habitat

namespace Consistent

variable {world : World} {store : Store} {issued : Nat}
  {out : Option Creature} {creature : Creature}

/-- What a newcomer adds to a total. -/
theorem total_spawn (consistent : Consistent world store issued out)
    (named : creature.handle = (store.allocate issued).1)
    (measure : Creature → Int) :
    ((store.allocate issued).2.1.set creature.handle creature).total
        measure =
      store.total measure + measure creature := by
  have bound := consistent.lt_count_allocate
  have nobody := consistent.creature?_allocate
  rw [← named] at bound nobody
  have share :
      (((store.allocate issued).2.1).slot creature.handle.slot).share
        measure = 0 := by
    rw [Store.slot_allocate, Slot.share, nobody]
    rfl
  rw [Store.total_set bound, share, Store.total_allocate, Int.sub_zero]

end Consistent

namespace Turn

variable {turn after : Turn σ}

def wealth (turn : Turn σ) : Int :=
  turn.toHabitat.wealth + turn.actor.energy

/-! ## Genes -/

theorem Effect.wealth_eq [Dice σ] (inOrder : turn.InOrder) {gene : Gene}
    (effect : Effect turn gene after) : after.wealth = turn.wealth := by
  have consistent := inOrder.consistent
  have targetOnGrid := contains_target inOrder.onGrid
  unfold wealth Habitat.wealth
  cases effect with
  | idle | foraged | scouted | inverted | blocked | missed | unresolved |
      tired =>
      rfl
  | moved unoccupied =>
      simp only [World.totalFood_setOccupant]
      rfl
  | @ate tile found unoccupied =>
      dsimp only
      rw [World.totalFood_addFood targetOnGrid]
      change turn.world.totalFood + -min eatQuota tile.food +
        turn.store.total Creature.energy + _ = _
      omega
  | @wounded victim occupied known strong =>
      have lost :
          (turn.store.set victim.handle
            { victim with
              energy := victim.energy - attackDamage }).total
              Creature.energy =
            turn.store.total Creature.energy - attackDamage := by
        have bound := Store.lt_count_of_get known
        have stored := (Store.get_eq_some_iff.1 known).1
        rw [Store.total_set bound, stored]
        show _ - victim.energy + (victim.energy - attackDamage) = _
        omega
      dsimp only
      rw [lost]
      change turn.world.totalFood + _ + _ = _
      omega
  | @killed victim occupied known weak =>
      have stored := (Store.get_eq_some_iff.1 known).1
      have kept := Store.holds_of_get known
      dsimp only
      rw [Store.total_release kept, stored, World.totalFood_setOccupant]
      show turn.world.totalFood +
        (turn.store.total Creature.energy - victim.energy) + _ = _
      omega
  | @bred _ _ child able unoccupied mutated inherits born =>
      have named : child.handle = (turn.store.allocate turn.issued).1 :=
        congrArg Creature.handle born
      have price : child.energy = reproduceCost := by
        rw [born]
        rfl
      dsimp only
      rw [consistent.total_spawn named, World.totalFood_setOccupant, price]
      omega

/-! ## Turns -/

/-- The slot of the creature that is out adds nothing to a total. -/
theorem InOrder.total_release (inOrder : turn.InOrder)
    (measure : Creature → Int) :
    (turn.store.release turn.actor.handle).2.total measure =
      turn.store.total measure := by
  rw [Store.total_release inOrder.consistent.holds_actor,
    inOrder.consistent.slot_actor]
  exact Int.sub_zero _

theorem Upkeep.wealth_eq (inOrder : turn.InOrder) {life : Life}
    (upkeep : Upkeep turn life after) : after.wealth = turn.wealth := by
  unfold wealth Habitat.wealth
  cases upkeep with
  | paid solvent =>
      dsimp only
      rw [World.totalFood_addFood inOrder.onGrid]
      omega
  | starved broke =>
      dsimp only
      rw [World.totalFood_setOccupant,
        World.totalFood_addFood inOrder.onGrid, inOrder.total_release]
      omega

section Runs

variable [Dice σ]

private theorem wealth_runProgram (inOrder : turn.InOrder)
    (ran : runProgram.apply turn = (.ok (), after)) :
    after.wealth = turn.wealth := by
  have ended :=
    (succeeds_runProgram_kept (fun later => later.wealth = turn.wealth) inOrder
      (fun follows _ effect same =>
        (effect.wealth_eq follows.inOrder).trans same) rfl).of_apply ran
  exact ended.2

theorem Played.wealth_eq (inOrder : turn.InOrder) {life : Life}
    (played : Played turn life after) : after.wealth = turn.wealth := by
  cases played with
  | faded spent =>
      rfl
  | ended lively ran follows upkeep =>
      exact (upkeep.wealth_eq follows.inOrder).trans
        (wealth_runProgram inOrder ran)

/-- One that dies in its turn has nothing left. -/
private theorem Played.energy_eq_zero (played : Played turn .dead after) :
    after.actor.energy = 0 := by
  cases played with
  | faded spent =>
      exact spent
  | ended lively ran follows upkeep =>
      cases upkeep with
      | starved broke =>
          exact Int.add_right_neg _

end Runs

end Turn

/-! ## Visits -/

namespace Scene

variable {scene after : Scene σ} {handle : Handle} {turn : Turn σ}

/-- A creature that is checked out takes its energy along. -/
private theorem wealth_opens (opened : scene.turn? handle = some turn) :
    turn.wealth = scene.wealth := by
  rcases turn?_eq_some_iff.1 opened with ⟨actor, found, rfl⟩
  unfold Turn.wealth Habitat.wealth
  dsimp only
  rw [Store.total_take found]
  omega

theorem Visited.wealth_eq [Dice σ] (inOrder : scene.InOrder)
    (visited : Visited scene handle after) :
    after.wealth = scene.wealth := by
  cases visited with
  | gone missing =>
      rfl
  | @survived turn finished opened went played =>
      rcases inOrder.opens opened with ⟨turnInOrder, named, -⟩
      rcases played.inOrder with ⟨finishedInOrder, sameHandle⟩
      have consistent := finishedInOrder.consistent
      have bound := Store.lt_count_of_holds consistent.holds_actor
      have stored :
          (finished.store.set finished.actor.handle finished.actor).total
              Creature.energy =
            finished.store.total Creature.energy +
              finished.actor.energy := by
        rw [Store.total_set bound, consistent.slot_actor]
        exact congrArg (· + _) (Int.sub_zero _)
      rw [← wealth_opens opened, ← played.wealth_eq turnInOrder]
      rw [sameHandle, named] at stored
      unfold Turn.wealth Habitat.wealth
      dsimp only
      rw [stored, Int.add_assoc]
  | @starved turn finished opened went played lively =>
      rcases inOrder.opens opened with ⟨turnInOrder, -, -⟩
      rw [← wealth_opens opened, ← played.wealth_eq turnInOrder, Turn.wealth,
        played.energy_eq_zero, Int.add_zero]
  | @faded turn opened went spent =>
      rcases inOrder.opens opened with ⟨turnInOrder, named, -⟩
      have released := turnInOrder.total_release Creature.energy
      rw [named] at released
      rw [← wealth_opens opened, Turn.wealth, spent]
      unfold Habitat.wealth
      dsimp only
      rw [released, World.totalFood_setOccupant, Int.add_zero]

/-- Wealth changes hands in the visit of a handle, but none comes and none
goes: neither when the creature is called up, nor with any entry that it may
carry out at any moment of its program, nor with the upkeep. -/
structure Conserves [Dice σ] (scene : Scene σ) (handle : Handle) : Prop where
  visit : ((playHandle handle).apply scene).2.wealth = scene.wealth
  calledUp : ∀ turn, scene.turn? handle = some turn →
    turn.wealth = scene.wealth
  gene : ∀ turn, scene.turn? handle = some turn →
    ∀ entry ∈ turn.genes, ∀ codon,
      ((Turn.carryOut codon).apply entry.2).2.wealth = entry.2.wealth
  upkeep : ∀ turn, scene.turn? handle = some turn →
    ∀ middle, Turn.runProgram.apply turn = (.ok (), middle) →
      (Turn.payUpkeep.apply middle).2.wealth = middle.wealth
  turn : ∀ turn, scene.turn? handle = some turn →
    (Turn.play.apply turn).2.wealth = turn.wealth

end Scene

namespace Turn

variable [Dice σ] {turn : Turn σ}

private theorem wealth_carryOut (inOrder : turn.InOrder) (codon : Codon) :
    ((carryOut codon).apply turn).2.wealth = turn.wealth := by
  cases means : codon.meaning? with
  | none =>
      rw [carryOut, means]
      rfl
  | some gene =>
      obtain ⟨_, after, applied, effect⟩ :=
        (succeeds_carryOut inOrder means).exists_apply
      rw [applied]
      exact effect.wealth_eq inOrder

end Turn

namespace Scene

theorem InOrder.conserves [Dice σ] {scene : Scene σ}
    (inOrder : scene.InOrder) (handle : Handle) :
    scene.Conserves handle where
  visit := by
    obtain ⟨_, after, applied, visited⟩ :=
      (succeeds_playHandle inOrder handle).exists_apply
    rw [applied]
    exact visited.wealth_eq inOrder
  calledUp turn opened := wealth_opens opened
  gene := by
    intro turn opened entry member codon
    rcases inOrder.opens opened with ⟨turnInOrder, -, -⟩
    rcases Turn.follows_of_mem_genes turnInOrder member with ⟨-, follows⟩
    exact Turn.wealth_carryOut follows.inOrder codon
  upkeep := by
    intro turn opened middle ran
    rcases inOrder.opens opened with ⟨turnInOrder, -, -⟩
    have follows := (Turn.succeeds_runProgram turnInOrder).of_apply ran
    obtain ⟨life, after, applied, upkeep⟩ :=
      (Turn.succeeds_payUpkeep follows.inOrder).exists_apply
    rw [applied]
    exact upkeep.wealth_eq follows.inOrder
  turn := by
    intro turn opened
    rcases inOrder.opens opened with ⟨turnInOrder, -, -⟩
    obtain ⟨life, after, applied, played⟩ :=
      (Turn.succeeds_play turnInOrder).exists_apply
    rw [applied]
    exact played.wealth_eq turnInOrder

end Scene

/-! ## Runs -/

namespace World

/-- The food of a new world. -/
theorem Bare.totalFood_eq {world : World} {food : Int}
    (bare : world.Bare food) :
    world.totalFood = world.extent.area * food := by
  have same : world.tiles.toList.map Tile.food =
      List.replicate world.tiles.size food := by
    rw [List.eq_replicate_iff, List.length_map]
    refine ⟨rfl, fun amount member => ?_⟩
    rcases List.mem_map.1 member with ⟨tile, inside, rfl⟩
    rw [bare tile (Array.mem_toList_iff.1 inside)]
  rw [totalFood_eq_sum, same, List.sum_replicate_int, world.size_tiles,
    Int.natCast_mul]
  rfl

end World

namespace Habitat

variable {habitat after : Habitat σ}

theorem Sown.wealth_eq {program : List Codon} {placed : List Handle}
    (inOrder : habitat.InOrder)
    (admitted : Codon.checkProgram program = .ok ())
    (sown : Sown program habitat placed after) :
    after.wealth = habitat.wealth + initialEnergy * placed.length := by
  induction sown with
  | start =>
      exact (Int.add_zero _).symm
  | aside earlier dice journal inductionHypothesis =>
      exact inductionHypothesis
  | @placed placed before position earlier onGrid unoccupied
      inductionHypothesis =>
      have consistent := (earlier.inOrder inOrder admitted).consistent
      let newborn := Creature.born before.nextHandle position program
      have named : newborn.handle = before.nextHandle := rfl
      have stored := consistent.total_spawn named Creature.energy
      unfold wealth at inductionHypothesis ⊢
      unfold joined
      dsimp only
      rw [stored, World.totalFood_setOccupant, List.length_cons,
        Int.natCast_add, Int.mul_add]
      show _ + (_ + initialEnergy) = _
      omega

end Habitat

namespace Engine

variable [Dice σ] {engine after : Engine σ}

theorem Advanced.wealth_eq {answer : Bool}
    (inOrder : engine.toHabitat.InOrder)
    (advanced : Advanced engine answer after) :
    after.wealth = engine.wealth := by
  cases advanced with
  | idle empty journal =>
      rfl
  | @went scene lively played sceneInOrder =>
      have openingInOrder : engine.opening.InOrder := inOrder
      have ended :=
        (Scene.succeeds_playAll_kept
          (fun later => later.wealth = engine.wealth) openingInOrder rfl
          fun beforeInOrder visited same =>
            (visited.wealth_eq beforeInOrder).trans same).of_apply played
      exact ended.2

theorem wealth_advance (inOrder : engine.toHabitat.InOrder) :
    (advance.apply engine).2.wealth = engine.wealth := by
  obtain ⟨answer, after, applied, advanced⟩ :=
    (succeeds_advance inOrder).exists_apply
  rw [applied]
  exact advanced.wealth_eq inOrder

omit [Dice σ] in
theorem Fresh.wealth_eq (fresh : engine.Fresh) :
    engine.wealth =
      engine.config.width * engine.config.height *
        engine.config.startingFood := by
  rw [Habitat.wealth, fresh.bare.totalFood_eq, fresh.extent, fresh.stored]
  exact Int.add_zero _

/-- After the first population has come. -/
theorem wealth_setup (fresh : engine.Fresh) {patience : Nat}
    {handles : List Handle}
    (ran : (setup patience).apply engine = (.ok handles, after)) :
    after.wealth =
      engine.config.width * engine.config.height *
          engine.config.startingFood +
        initialEnergy * engine.config.initialPopulation := by
  rcases Config.validate_eq_ok_iff.1 fresh.accepted with ⟨-, ⟨enough, -⟩, -⟩
  obtain ⟨placed, habitat, sown, rfl, -, length⟩ :=
    (ends_setup patience engine).of_apply ran
  have number : (placed.length : Int) = engine.config.initialPopulation := by
    rw [length, Int.toNat_of_nonneg enough]
  rw [← fresh.wealth_eq, ← number]
  exact sown.wealth_eq fresh.inOrder Codon.checkProgram_starter

/-- Whatever happens in a round, in a visit or in a turn, and whichever gene is
carried out, the food on the tiles and the energy of the creatures add up to
what they were before. So a run that is seeded once keeps forever what its
parameters give it. -/
theorem energy_conserved :
    (∀ engine : Engine σ, Reachable engine →
      (advance.apply engine).2.wealth = engine.wealth ∧
        ∀ visit ∈ engine.opening.visits engine.store.handles,
          visit.2.Conserves visit.1) ∧
      ∀ (config : Config) (engine : Engine σ), Seeded config engine →
        engine.wealth =
          config.width * config.height * config.startingFood +
            100 * config.initialPopulation := by
  refine ⟨?_, ?_⟩
  · intro engine reachable
    refine ⟨wealth_advance reachable.inOrder, ?_⟩
    intro visit member
    have openingInOrder : engine.opening.InOrder := reachable.inOrder
    obtain ⟨-, inOrder⟩ :=
      Scene.inOrder_of_mem_visits openingInOrder member
    exact inOrder.conserves visit.1
  · intro config engine seeded
    induction seeded with
    | start made ran =>
        rcases fresh_of_make made with ⟨fresh, rfl⟩
        exact wealth_setup fresh ran
    | @advanced before _ _ seeded ran inductionHypothesis =>
        have same := wealth_advance seeded.reachable.inOrder
        rw [ran] at same
        exact same.trans inductionHypothesis
    | aside seeded notBefore journal inductionHypothesis =>
        exact inductionHypothesis

theorem energy_twoTiles :
    ∃ engine : Engine Script, engine.round = 1 ∧
      engine.store.liveCount = 1 ∧ engine.wealth = 200 ∧
      (advance.apply engine).2.wealth = 200 := by
  rcases exists_seeded_twoTiles with ⟨engine, seeded, rounds, alive⟩
  have amount : engine.wealth = 200 :=
    energy_conserved.2 twoTiles engine seeded
  refine ⟨engine, rounds, alive, amount, ?_⟩
  rw [(energy_conserved.1 engine seeded.reachable).1, amount]

end Engine

end Vivarium
