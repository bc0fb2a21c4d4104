import Vivarium.Proofs.Audit
import Vivarium.Proofs.Schedule

/-!
# The population ledger

The population of a simulation is those that have been placed, and the born
without the killed and the starved. The totals are right although a creature
that fades away for lack of energy is counted nowhere: if a host brings in
nobody without energy, there never is such a creature.
-/

namespace Vivarium

variable {σ : Type}

namespace Habitat

variable {habitat after : Habitat σ} {creature : Creature}

private theorem InOrder.liveCount_joined (inOrder : habitat.InOrder)
    (named : creature.handle = habitat.nextHandle) :
    (habitat.joined creature).store.liveCount =
      habitat.store.liveCount + 1 := by
  have more :
      ((habitat.joined creature).store.liveCount : Int) =
        habitat.store.liveCount + 1 := by
    rw [Store.liveCount_eq_total, Store.liveCount_eq_total]
    exact inOrder.consistent.total_spawn named _
  omega

private theorem InOrder.vital_joined (inOrder : habitat.InOrder)
    (vital : habitat.store.Vital)
    (named : creature.handle = habitat.nextHandle)
    (lively : 1 ≤ creature.energy) :
    (habitat.joined creature).store.Vital := by
  refine vital.write (inOrder.consistent.slot_spawn named) ?_
  intro newcomer same
  cases same
  exact lively

theorem Sown.ledger {program : List Codon} {placed : List Handle}
    (inOrder : habitat.InOrder) (vital : habitat.store.Vital)
    (admitted : Codon.checkProgram program = .ok ())
    (sown : Sown program habitat placed after) :
    after.store.Vital ∧
      after.store.liveCount = habitat.store.liveCount + placed.length := by
  induction sown with
  | start =>
      exact ⟨vital, rfl⟩
  | aside earlier dice journal inductionHypothesis =>
      exact inductionHypothesis
  | @placed placed before position earlier onGrid unoccupied
      inductionHypothesis =>
      have beforeInOrder := earlier.inOrder inOrder admitted
      rcases inductionHypothesis with ⟨vitalBefore, counted⟩
      refine ⟨?_, ?_⟩
      · refine beforeInOrder.vital_joined vitalBefore rfl ?_
        show 1 ≤ initialEnergy
        decide
      · rw [beforeInOrder.liveCount_joined rfl, counted, List.length_cons]
        omega

end Habitat

namespace Engine

open Habitat

variable [Dice σ] {engine after : Engine σ} {placed : Nat}

/-- A round leaves nobody without energy, and its births and deaths are in the
totals. -/
theorem Advanced.ledger {answer : Bool} (inOrder : engine.toHabitat.InOrder)
    (vital : engine.store.Vital) (advanced : Advanced engine answer after) :
    after.store.Vital ∧
      (after.population : Int) - after.totals.growth =
        engine.population - engine.totals.growth ∧
      (after.issued : Int) - engine.issued =
        after.totals.births - engine.totals.births := by
  cases advanced with
  | idle empty journal =>
      refine ⟨vital, rfl, ?_⟩
      dsimp only
      omega
  | @went scene lively played sceneInOrder =>
      have openingInOrder : engine.opening.InOrder := inOrder
      have begun : engine.opening.Audited engine.opening := ⟨vital, rfl, rfl⟩
      have ended :=
        (Scene.succeeds_playAll_kept engine.opening.Audited openingInOrder
          begun fun beforeInOrder visited audited =>
            audited.trans
              (visited.audited beforeInOrder audited.vital)).of_apply played
      rcases ended with ⟨-, audited⟩
      have founders :
          (scene.store.liveCount : Int) - scene.tally.growth =
            engine.store.liveCount - Tally.growth .zero :=
        audited.founders
      have stamps :
          (scene.issued : Int) - scene.tally.births = engine.issued - 0 :=
        audited.stamps
      have nothing : Tally.growth .zero = 0 := rfl
      refine ⟨audited.vital, ?_, ?_⟩
      · rw [Tally.growth_merge]
        show (scene.store.liveCount : Int) - (_ + _) =
          engine.store.liveCount - _
        omega
      · show (scene.issued : Int) - engine.issued =
          engine.totals.births + scene.tally.births - engine.totals.births
        omega

/-- The states of a simulation whose host brings in nobody without energy,
with the number of creatures that have been placed so far. -/
inductive Populated : Engine σ → Nat → Prop where
  | made {config : Config} {seed : Option Int} {dice : σ} {issued : Nat}
      {runId : String} {engine : Engine σ}
      (made : make config seed dice issued runId = .ok engine) :
      Populated engine 0
  | seeded {before after : Engine σ} {placed patience : Nat}
      {handles : List Handle} (earlier : Populated before placed)
      (ran : (setup patience).apply before = (.ok handles, after)) :
      Populated after (placed + handles.length)
  -- a seeding that does not end leaves no state behind
  | refused {before after : Engine σ} {placed patience : Nat}
      {fault : Fault} (earlier : Populated before placed)
      (ran : (setup patience).apply before = (.error fault, after))
      (answered : fault ≠ .unfinished) : Populated after placed
  | placed {before after : Engine σ} {placed : Nat} {position : Position}
      {program : List Codon} {energy : Int} {sensors : Sensors}
      {tile : Tile} {result : Except Fault Handle}
      (earlier : Populated before placed)
      (sized : 1 ≤ program.length ∧ program.length ≤ Gene.maxProgram)
      (native : ∀ codon ∈ program, codon.isGene = true)
      (lively : 1 ≤ energy) (bytes : sensors.InRange)
      (found : before.world.tile? position = some tile)
      (vacant : tile.occupant = none)
      (ran :
        (shared (place position program energy sensors)).apply before =
          (result, after)) :
      Populated after (placed + 1)
  | advanced {before after : Engine σ} {placed : Nat}
      {result : Except Fault Bool} (earlier : Populated before placed)
      (ran : advance.apply before = (result, after)) :
      Populated after placed
  -- other simulations draw stamps from the same count
  | aside {before : Engine σ} {placed issued : Nat}
      (earlier : Populated before placed)
      (notBefore : before.issued ≤ issued) (journal : List Notice) :
      Populated { before with issued := issued, journal := journal } placed

theorem Populated.reachable (populated : Populated engine placed) :
    Reachable engine := by
  induction populated with
  | made made =>
      exact .made made
  | seeded earlier ran inductionHypothesis =>
      exact .step inductionHypothesis (.seeded _ ran)
  | refused earlier ran answered inductionHypothesis =>
      exact .step inductionHypothesis (.seeded _ ran)
  | placed earlier sized native lively bytes found vacant ran
      inductionHypothesis =>
      refine .step inductionHypothesis
        (.placed sized native ?_ bytes found vacant ran)
      omega
  | advanced earlier ran inductionHypothesis =>
      exact .step inductionHypothesis (.advanced ran)
  | aside earlier notBefore journal inductionHypothesis =>
      exact .step inductionHypothesis (.aside notBefore journal)

theorem Populated.balanced (populated : Populated engine placed) :
    engine.store.Vital ∧
      (engine.population : Int) = placed + engine.totals.growth := by
  induction populated with
  | made made =>
      rcases fresh_of_make made with ⟨⟨-, -, -, stored, totals⟩, -⟩
      rw [population, stored, totals]
      refine ⟨?_, rfl⟩
      intro index creature
      exact nofun
  | @seeded before _ placed patience handles earlier ran
      inductionHypothesis =>
      rcases inductionHypothesis with ⟨vital, counted⟩
      obtain ⟨newcomers, habitat, sown, rfl, rfl, -⟩ :=
        (ends_setup patience before).of_apply ran
      obtain ⟨vitalAfter, more⟩ :=
        sown.ledger earlier.reachable.inOrder vital
          Codon.checkProgram_starter
      refine ⟨vitalAfter, ?_⟩
      unfold population at counted ⊢
      dsimp only
      rw [List.length_reverse, more]
      omega
  | @refused before _ placed patience fault earlier ran answered
      inductionHypothesis =>
      rcases (ends_setup patience before).of_apply ran with
        ⟨unfinished, -⟩ | ⟨-, -, rfl⟩
      · exact absurd unfinished answered
      · exact inductionHypothesis
  | @placed before _ placed position program energy sensors tile result
      earlier sized native lively bytes found vacant ran
      inductionHypothesis =>
      rcases inductionHypothesis with ⟨vital, counted⟩
      have inOrder := earlier.reachable.inOrder
      rw [apply_place inOrder sized native found] at ran
      cases ran
      have more :
          (before.joined
            (before.guest position program energy
              sensors)).store.liveCount =
            before.store.liveCount + 1 :=
        inOrder.liveCount_joined rfl
      refine ⟨inOrder.vital_joined vital rfl lively, ?_⟩
      unfold population at counted ⊢
      dsimp only
      omega
  | @advanced before _ placed result earlier ran inductionHypothesis =>
      rcases inductionHypothesis with ⟨vital, counted⟩
      have inOrder := earlier.reachable.inOrder
      have ended := (succeeds_advance inOrder).of_apply ran
      cases result with
      | error fault =>
          exact ended.elim
      | ok answer =>
          rcases ended.ledger inOrder vital with ⟨vitalAfter, same, -⟩
          exact ⟨vitalAfter, by omega⟩
  | aside earlier notBefore journal inductionHypothesis =>
      exact inductionHypothesis

/-- The books of a simulation between two rounds. -/
structure Ledger (engine : Engine σ) (placed : Nat) : Prop where
  energetic : ∀ creature ∈ engine.store.creatures, 1 ≤ creature.energy
  fed : ∀ position tile, engine.world.tile? position = some tile →
    0 ≤ tile.food
  /-- In the next round no turn ends before it has begun, and nobody has to be
  buried. -/
  orderly : ∀ visit ∈ engine.visits, visit.2.Orderly visit.1
  counted : (engine.population : Int) =
    placed + engine.totals.births - engine.totals.kills -
      engine.totals.starvations
  stamps : ∃ answer after, advance.apply engine = (.ok answer, after) ∧
    (after.issued : Int) - engine.issued =
      after.totals.births - engine.totals.births

theorem population_ledger (populated : Populated engine placed) :
    Ledger engine placed := by
  have inOrder := populated.reachable.inOrder
  rcases populated.balanced with ⟨vital, counted⟩
  obtain ⟨answer, after, applied, advanced⟩ :=
    (succeeds_advance inOrder).exists_apply
  refine ⟨?_, ?_, ?_, ?_, ?_⟩
  · intro creature listed
    rcases Store.mem_creatures_iff.1 listed with ⟨index, stored⟩
    exact vital index creature stored
  · intro position tile found
    exact inOrder.consistent.settled.fed found
  · intro visit member
    have openingInOrder : engine.opening.InOrder := inOrder
    obtain ⟨-, visitInOrder, vitalThere⟩ :=
      Scene.kept_of_mem_visits (fun later => later.store.Vital)
        openingInOrder vital
        (fun beforeInOrder visited vitalBefore =>
          (visited.audited beforeInOrder vitalBefore).vital) member
    exact visitInOrder.orderly vitalThere visit.1
  · unfold Tally.growth at counted
    omega
  · rcases advanced.ledger inOrder vital with ⟨-, -, stamps⟩
    exact ⟨answer, after, applied, stamps⟩

/-- A parent whose offspring is born in the first round. -/
theorem ledger_firstBirth :
    ∃ engine : Engine Script, engine.population = 2 ∧
      engine.totals = ⟨1, 0, 0⟩ ∧ Ledger engine 1 := by
  let config := { twoTiles with initialPopulation := 0 }
  let parent (start : Engine Script) :=
    ((shared (Habitat.place ⟨0, 0⟩ [.gene .reproduce] 250 .midpoint)).apply
      start).2
  obtain ⟨start, made⟩ :=
    exists_make_unseeded (show config.validate = .ok () from rfl)
      (⟨#[0], 0⟩ : Script) 0 ""
  have figures :
      ((make config none (⟨#[0], 0⟩ : Script) 0 "").toOption.map
        fun start =>
          let later := (advance.apply (parent start)).2
          (start.world.tile? ⟨0, 0⟩, later.population, later.totals)) =
        some (some ⟨50, none⟩, 2, ⟨1, 0, 0⟩) := by
    decide +kernel
  rw [made] at figures
  rcases Prod.mk.inj (Option.some.inj figures) with ⟨home, figures⟩
  rcases Prod.mk.inj figures with ⟨grown, totals⟩
  have bytes : Sensors.midpoint.InRange := by
    unfold Sensors.InRange
    decide
  have ran :
      (shared (Habitat.place ⟨0, 0⟩ [.gene .reproduce] 250
        .midpoint)).apply start = (_, parent start) := rfl
  have alone : Populated (parent start) 1 :=
    .placed (.made made) (by decide) (by decide) (by decide) bytes home rfl
      ran
  exact ⟨_, grown, totals, population_ledger (.advanced alone rfl)⟩

end Engine

end Vivarium
