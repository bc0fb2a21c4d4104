import Vivarium.Proofs.Engines

/-!
# Reachable states

The states that a host can bring a simulation into: it makes the simulation
from parameters that are accepted, seeds it, places creatures on free tiles
and plays rounds, in any order and as often as it likes. In all of them the
grid and the store are in order, and no round fails.
-/

namespace Vivarium

variable {σ : Type} [Dice σ]

namespace Engine

open Habitat

/-- What a host does with a simulation. -/
inductive Step (engine : Engine σ) : Engine σ → Prop where
  | seeded (patience : Nat) {result : Except Fault (List Handle)}
      {after : Engine σ}
      (ran : (setup patience).apply engine = (result, after)) :
      Step engine after
  | placed {position : Position} {program : List Codon} {energy : Int}
      {sensors : Sensors} {tile : Tile} {result : Except Fault Handle}
      {after : Engine σ}
      (sized : 1 ≤ program.length ∧ program.length ≤ Gene.maxProgram)
      (native : ∀ codon ∈ program, codon.isGene = true)
      (enough : 0 ≤ energy) (bytes : sensors.InRange)
      (found : engine.world.tile? position = some tile)
      (vacant : tile.occupant = none)
      (ran :
        (shared (place position program energy sensors)).apply engine =
          (result, after)) :
      Step engine after
  | advanced {result : Except Fault Bool} {after : Engine σ}
      (ran : advance.apply engine = (result, after)) :
      Step engine after
  -- other simulations draw stamps from the same count
  | aside {issued : Nat} (notBefore : engine.issued ≤ issued)
      (journal : List Notice) :
      Step engine { engine with issued := issued, journal := journal }

inductive Reachable : Engine σ → Prop where
  | made {config : Config} {seed : Option Int} {dice : σ} {issued : Nat}
      {runId : String} {engine : Engine σ}
      (made : make config seed dice issued runId = .ok engine) :
      Reachable engine
  | step {before after : Engine σ} (reached : Reachable before)
      (step : Step before after) : Reachable after

theorem Reachable.place {engine : Engine σ} (reached : Reachable engine)
    {position : Position} {tile : Tile}
    (found : engine.world.tile? position = some tile)
    (vacant : tile.occupant = none) {program : List Codon}
    (admitted : Codon.checkProgram program = .ok ()) {energy : Int}
    (enough : 0 ≤ energy) {sensors : Sensors} (bytes : sensors.InRange) :
    Reachable
      ((shared (Habitat.place position program energy sensors)).apply
        engine).2 := by
  obtain ⟨nonempty, short, native⟩ :=
    Codon.checkProgram_eq_ok_iff.1 admitted
  exact .step reached
    (.placed ⟨nonempty, short⟩ native enough bytes found vacant rfl)

theorem Reachable.advance {engine : Engine σ} (reached : Reachable engine) :
    Reachable (advance.apply engine).2 :=
  .step reached (.advanced rfl)

/-- The states of a run that is seeded once and for all, and then goes on by
itself. -/
inductive Seeded (config : Config) : Engine σ → Prop where
  | start {seed : Option Int} {dice : σ} {issued : Nat} {runId : String}
      {engine : Engine σ} {patience : Nat} {handles : List Handle}
      {after : Engine σ}
      (made : make config seed dice issued runId = .ok engine)
      (ran : (setup patience).apply engine = (.ok handles, after)) :
      Seeded config after
  | advanced {before : Engine σ} {result : Except Fault Bool}
      {after : Engine σ} (seeded : Seeded config before)
      (ran : advance.apply before = (result, after)) :
      Seeded config after
  | aside {before : Engine σ} {issued : Nat}
      (seeded : Seeded config before) (notBefore : before.issued ≤ issued)
      (journal : List Notice) :
      Seeded config { before with issued := issued, journal := journal }

theorem Seeded.reachable {config : Config} {engine : Engine σ}
    (seeded : Seeded config engine) : Reachable engine := by
  induction seeded with
  | start made ran =>
      exact .step (.made made) (.seeded _ ran)
  | advanced seeded ran inductionHypothesis =>
      exact .step inductionHypothesis (.advanced ran)
  | aside seeded notBefore journal inductionHypothesis =>
      exact .step inductionHypothesis (.aside notBefore journal)

def twoTiles : Config where
  width := 2
  height := 1
  initialPopulation := 1
  startingFood := 50
  seed := none
  maxRounds := none
  statsInterval := 0

/-- One round on two tiles, which the only creature survives. -/
theorem exists_seeded_twoTiles :
    ∃ engine : Engine Script, Seeded twoTiles engine ∧
      engine.round = 1 ∧ engine.store.liveCount = 1 := by
  obtain ⟨start, made⟩ :=
    exists_make_unseeded (show twoTiles.validate = .ok () from rfl)
      (⟨#[1], 0⟩ : Script) 0 ""
  have figures :
      ((make twoTiles none (⟨#[1], 0⟩ : Script) 0 "").toOption.map
        fun start =>
          let seeding := (setup 1).apply start
          let round := advance.apply seeding.2
          (seeding.1, round.2.round, round.2.store.liveCount)) =
        some (.ok [⟨0, 0⟩], 1, 1) := by
    decide +kernel
  rw [made] at figures
  rcases Prod.mk.inj (Option.some.inj figures) with ⟨seeding, later⟩
  rcases Prod.mk.inj later with ⟨rounds, alive⟩
  have seeded :
      Seeded twoTiles ((setup 1).apply start).2 :=
    .start made (Prod.ext seeding rfl)
  exact ⟨_, .advanced seeded rfl, rounds, alive⟩

variable {engine after : Engine σ}

/-! ## The invariant -/

theorem Advanced.inOrder {answer : Bool} (inOrder : engine.toHabitat.InOrder)
    (advanced : Advanced engine answer after) :
    after.toHabitat.InOrder := by
  cases advanced with
  | idle empty journal =>
      exact inOrder
  | went lively played sceneInOrder =>
      exact sceneInOrder

omit [Dice σ] in
theorem apply_place (inOrder : engine.toHabitat.InOrder)
    {position : Position} {program : List Codon} {energy : Int}
    {sensors : Sensors} {tile : Tile}
    (sized : 1 ≤ program.length ∧ program.length ≤ Gene.maxProgram)
    (native : ∀ codon ∈ program, codon.isGene = true)
    (found : engine.world.tile? position = some tile) :
    (shared (place position program energy sensors)).apply engine =
      (.ok engine.nextHandle,
        { engine with
          toHabitat :=
            engine.joined
              (engine.guest position program energy sensors) }) := by
  have admitted : Codon.checkProgram program = .ok () :=
    Codon.checkProgram_eq_ok_iff.2 ⟨sized.1, sized.2, native⟩
  have onGrid := World.contains_of_tile? found
  have placing :
      (shared (place position program energy sensors)).Succeeds engine
        fun handle after =>
          handle = engine.nextHandle ∧
            after =
              { engine with
                toHabitat :=
                  engine.joined
                    (engine.guest position program energy sensors) } := by
    rw [Act.Succeeds, ends_shared, ends_place inOrder admitted onGrid]
    exact ⟨rfl, rfl⟩
  obtain ⟨handle, placed, applied, rfl, rfl⟩ := placing.exists_apply
  exact applied

inductive Outcome (engine : Engine σ) : Engine σ → Prop where
  | sown {placed : List Handle} {habitat : Habitat σ}
      (sown : Sown Codon.starter engine.toHabitat placed habitat) :
      Outcome engine { engine with toHabitat := habitat }
  | joined {creature : Creature}
      (named : creature.handle = engine.nextHandle)
      (onGrid : engine.world.contains creature.position = true)
      (unoccupied : engine.world.occupant? creature.position = none)
      (viable : creature.Viable) :
      Outcome engine { engine with toHabitat := engine.joined creature }
  | advanced {answer : Bool} {after : Engine σ}
      (advanced : Advanced engine answer after) : Outcome engine after
  | aside {issued : Nat} (notBefore : engine.issued ≤ issued)
      (journal : List Notice) :
      Outcome engine { engine with issued := issued, journal := journal }

theorem Step.outcome (inOrder : engine.toHabitat.InOrder)
    (step : Step engine after) : Outcome engine after := by
  cases step with
  | @seeded patience result _ ran =>
      have ended := (ends_setup patience engine).of_apply ran
      cases result with
      | ok handles =>
          rcases ended with ⟨placed, habitat, sown, rfl, -⟩
          exact .sown sown
      | error fault =>
          rcases ended with ⟨-, placed, habitat, sown, rfl⟩ | ⟨-, -, rfl⟩
          · exact .sown sown
          · exact .sown .start
  | @placed position program energy sensors tile result _ sized native enough
      bytes found vacant ran =>
      rw [apply_place inOrder sized native found] at ran
      cases ran
      have admitted : Codon.checkProgram program = .ok () :=
        Codon.checkProgram_eq_ok_iff.2 ⟨sized.1, sized.2, native⟩
      have unoccupied : engine.world.occupant? position = none := by
        rw [World.occupant?_of_tile? found, vacant]
      exact .joined rfl (World.contains_of_tile? found) unoccupied
        (viable_guest admitted enough bytes)
  | @advanced result _ ran =>
      have ended := (succeeds_advance inOrder).of_apply ran
      cases result with
      | ok answer =>
          exact .advanced ended
      | error fault =>
          exact ended.elim
  | aside notBefore journal =>
      exact .aside notBefore journal

theorem Outcome.inOrder (inOrder : engine.toHabitat.InOrder)
    (outcome : Outcome engine after) : after.toHabitat.InOrder := by
  cases outcome with
  | sown sown =>
      exact sown.inOrder inOrder Codon.checkProgram_starter
  | joined named onGrid unoccupied viable =>
      exact inOrder.joined named onGrid unoccupied viable
  | advanced advanced =>
      exact advanced.inOrder inOrder
  | aside notBefore journal =>
      exact inOrder.consistent.mono notBefore

theorem Reachable.inOrder (reachable : Reachable engine) :
    engine.toHabitat.InOrder := by
  induction reachable with
  | made made =>
      exact (fresh_of_make made).1.inOrder
  | step reached step inductionHypothesis =>
      exact (step.outcome inductionHypothesis).inOrder inductionHypothesis

def couple (dice : σ) (west east : List Codon × Int) : Option (Engine σ) := do
  let start ←
    (make { twoTiles with initialPopulation := 0 } none dice 0 "").toOption
  let single :=
    (shared (place ⟨0, 0⟩ west.1 west.2 .midpoint)).apply start
  let both :=
    (shared (place ⟨1, 0⟩ east.1 east.2 .midpoint)).apply single.2
  return both.2

theorem reachable_of_couple {dice : σ} {west east : List Codon × Int}
    (paired : couple dice west east = some engine)
    (admitted : ∀ program ∈ [west.1, east.1],
      Codon.checkProgram program = .ok ())
    (enough : ∀ energy ∈ [west.2, east.2], 0 ≤ energy) :
    Reachable engine := by
  have bytes := Sensors.inRange_midpoint
  obtain ⟨start, made⟩ :=
    exists_make_unseeded
      (show ({ twoTiles with initialPopulation := 0 } : Config).validate =
        .ok () from rfl) dice 0 ""
  rw [couple, made] at paired
  cases paired
  obtain ⟨fresh, config⟩ := fresh_of_make made
  have onGrid : ∀ x : Int, 0 ≤ x → x < 2 →
      start.world.contains ⟨x, 0⟩ = true := by
    intro x nonneg below
    rw [World.contains, fresh.extent, config, Extent.contains_iff]
    exact ⟨nonneg, below, Int.le_refl 0, Int.one_pos⟩
  rcases World.exists_tile? (onGrid 0 (by decide) (by decide)) with
    ⟨home, foundHome⟩
  rcases World.exists_tile? (onGrid 1 (by decide) (by decide)) with
    ⟨next, foundNext⟩
  obtain rfl := fresh.bare.eq_of_tile? foundHome
  obtain rfl := fresh.bare.eq_of_tile? foundNext
  have native := Codon.checkProgram_eq_ok_iff.1 (admitted west.1 (by simp))
  have alone :=
    (Reachable.made made).place foundHome rfl (admitted west.1 (by simp))
      (enough west.2 (by simp)) bytes
  have stillFree :
      ((shared (place ⟨0, 0⟩ west.1 west.2 .midpoint)).apply
        start).2.world.tile? ⟨1, 0⟩ =
          some ⟨start.config.startingFood, none⟩ := by
    rw [apply_place (Reachable.made made).inOrder
      ⟨native.1, native.2.1⟩ native.2.2 foundHome]
    dsimp only
    rw [Habitat.joined, World.setOccupant, World.tile?_update, if_neg]
    · exact foundNext
    · exact fun same => by cases same
  exact alone.place stillFree rfl (admitted east.1 (by simp))
    (enough east.2 (by simp)) bytes

/-! ## Grid and store -/

/-- Every mark on a tile leads to the creature that stands there, every stored
creature has its mark, and nobody is out of the store. -/
structure Matched (engine : Engine σ) : Prop where
  resolved : ∀ {position tile handle},
    engine.world.tile? position = some tile → tile.occupant = some handle →
      ∃ creature, engine.store.get handle = some creature ∧
        creature.handle = handle ∧ creature.position = position
  stored : ∀ {index creature}, engine.store.slot index = .stored creature →
    creature.handle.slot = index ∧
      engine.world.contains creature.position = true ∧
      ∃ tile, engine.world.tile? creature.position = some tile ∧
        tile.occupant = some creature.handle
  bijective :
    engine.world.marks.Perm
      (engine.store.creatures.map fun creature =>
        (creature.position, creature.handle))
  marksNodup : (engine.world.marks.map Prod.snd).Nodup
  counted : engine.world.occupiedCount = engine.store.liveCount
  nobodyOut : ∀ index handle,
    engine.store.slot index ≠ .checkedOut handle

theorem reachable_matched (reachable : Reachable engine) :
    Matched engine where
  resolved := by
    intro position tile handle found occupied
    have consistent := reachable.inOrder.consistent
    have mark : engine.world.occupant? position = some handle := by
      rw [World.occupant?_of_tile? found, occupied]
    obtain ⟨creature, present, named, placed⟩ :=
      consistent.settled.resolved mark
    refine ⟨creature, ?_, named, placed⟩
    rw [← named]
    exact consistent.get_of_resident present (by simp)
  stored := by
    intro index creature stored
    have settled := reachable.inOrder.consistent.settled
    have present := Store.residents_none_eq_some_iff.2 stored
    have onGrid := settled.contains present
    rcases World.exists_tile? onGrid with ⟨tile, found⟩
    have mark := settled.marked present
    rw [World.occupant?_of_tile? found] at mark
    exact ⟨settled.slot_eq present, onGrid, tile, found, mark⟩
  bijective := reachable.inOrder.consistent.marks_perm
  marksNodup := by
    have consistent := reachable.inOrder.consistent
    have names := consistent.marks_perm.map Prod.snd
    rw [List.map_map] at names
    exact names.nodup_iff.2 consistent.nodup_handles
  counted := reachable.inOrder.consistent.occupiedCount_eq
  nobodyOut := reachable.inOrder.consistent.slot_ne_checkedOut

theorem matched_twoTiles :
    ∃ engine : Engine Script, engine.round = 1 ∧
      engine.store.liveCount = 1 ∧ Matched engine := by
  rcases exists_seeded_twoTiles with ⟨engine, seeded, rounds, alive⟩
  exact ⟨engine, rounds, alive, reachable_matched seeded.reachable⟩

/-! ## No failure -/

/-- A world can be made from all parameters that are accepted, and a simulation
on it with every seed that can be written; there is room for its first
population. Whatever the host does with it later, a further seeding that is
refused leaves it alone, and every round goes through. A search for a free tile
that never ends counts as given up. -/
theorem rounds_never_fail :
    (∀ config : Config, config.validate = .ok () →
      ∃ world,
        World.make config.width config.height config.startingFood =
            .ok world ∧
          ∀ (seed : Option Int) (dice : σ) (issued : Nat) (runId : String),
            (∀ value ∈ seed, Figure.Short value) →
              ∃ engine,
                make config seed dice issued runId = .ok engine ∧
                  engine.world = world ∧
                  ∀ patience fault after,
                    (setup patience).apply engine = (.error fault, after) →
                      fault = .unfinished) ∧
      ∀ engine : Engine σ, Reachable engine →
        (∀ patience fault after,
          (setup patience).apply engine = (.error fault, after) →
            fault = .unfinished ∨
              fault = (Fault.crowded engine.config.initialPopulation
                  engine.freeTiles).raised ∧
                after = engine) ∧
          ∃ answer after, advance.apply engine = (.ok answer, after) := by
  refine ⟨?_, ?_⟩
  · intro config accepted
    obtain ⟨world, worldMade⟩ := exists_world accepted
    refine ⟨world, worldMade, ?_⟩
    intro seed dice issued runId writable
    have made : make config seed dice issued runId = .ok _ :=
      make_eq_ok_iff.2 ⟨accepted, writable, world, worldMade, rfl⟩
    refine ⟨_, made, rfl, ?_⟩
    intro patience fault after ran
    have room := (fresh_of_make made).1.room
    rcases (ends_setup patience _).of_apply ran with
      ⟨unfinished, -⟩ | ⟨-, few, -⟩
    · exact unfinished
    · exact absurd room (Int.not_le.2 few)
  · intro engine reachable
    refine ⟨?_, ?_⟩
    · intro patience fault after ran
      rcases (ends_setup patience engine).of_apply ran with
        ⟨unfinished, -⟩ | ⟨crowded, -, same⟩
      · exact Or.inl unfinished
      · exact Or.inr ⟨crowded, same⟩
    · obtain ⟨answer, after, ran, -⟩ :=
        (succeeds_advance reachable.inOrder).exists_apply
      exact ⟨answer, after, ran⟩

theorem second_round_twoTiles :
    ∃ engine : Engine Script, engine.round = 1 ∧
      engine.store.liveCount = 1 ∧
      ∃ answer after, advance.apply engine = (.ok answer, after) := by
  rcases exists_seeded_twoTiles with ⟨engine, seeded, rounds, alive⟩
  exact ⟨engine, rounds, alive,
    (rounds_never_fail.2 engine seeded.reachable).2⟩

end Engine

end Vivarium
