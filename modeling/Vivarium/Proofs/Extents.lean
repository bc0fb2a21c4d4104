import Vivarium.Proofs.Reachable

/-!
# The extent of the grid

Whatever happens in a simulation, its grid keeps the width and the height that
its parameters ask for.
-/

namespace Vivarium

variable {σ : Type}

namespace World

@[simp]
theorem extent_setOccupant (world : World) (position : Position)
    (occupant : Option Handle) :
    (world.setOccupant position occupant).extent = world.extent :=
  extent_update world position _

theorem area_extent (world : World) :
    world.extent.area = (world.tiles.size : Int) := by
  rw [world.size_tiles, Int.natCast_mul]
  rfl

end World

namespace Turn

variable {turn after : Turn σ}

theorem Effect.extent_eq [Dice σ] {gene : Gene}
    (effect : Effect turn gene after) :
    after.world.extent = turn.world.extent := by
  cases effect with
  | moved unoccupied =>
      simp only [World.extent_setOccupant]
  | ate found unoccupied =>
      exact World.extent_update _ _ _
  | killed occupied known weak =>
      exact World.extent_setOccupant _ _ _
  | bred able unoccupied mutated inherits born =>
      exact World.extent_setOccupant _ _ _
  | _ =>
      rfl

theorem Upkeep.extent_eq {life : Life} (upkeep : Upkeep turn life after) :
    after.world.extent = turn.world.extent := by
  cases upkeep with
  | paid solvent =>
      exact World.extent_update _ _ _
  | starved broke =>
      simp only [World.extent_setOccupant, World.extent_update]

section Turns

variable [Dice σ]

theorem Played.extent_eq {life : Life} (inOrder : turn.InOrder)
    (played : Played turn life after) :
    after.world.extent = turn.world.extent := by
  cases played with
  | faded spent =>
      rfl
  | ended lively ran follows upkeep =>
      have ended :=
        (succeeds_runProgram_kept
          (fun later => later.world.extent = turn.world.extent) inOrder
          (fun _ _ effect same => effect.extent_eq.trans same)
          rfl).of_apply ran
      exact upkeep.extent_eq.trans ended.2

end Turns

end Turn

namespace Scene

variable {scene after : Scene σ} {handle : Handle}

theorem Visited.extent_eq [Dice σ] (inOrder : scene.InOrder)
    (visited : Visited scene handle after) :
    after.world.extent = scene.world.extent := by
  cases visited with
  | gone missing =>
      rfl
  | survived opened went played | starved opened went played lively =>
      rcases inOrder.opens opened with ⟨turnInOrder, -, -⟩
      rcases turn?_eq_some_iff.1 opened with ⟨actor, found, rfl⟩
      exact played.extent_eq turnInOrder
  | faded opened went spent =>
      rcases turn?_eq_some_iff.1 opened with ⟨actor, found, rfl⟩
      exact World.extent_setOccupant _ _ _

end Scene

namespace Habitat

variable {habitat after : Habitat σ}

theorem Sown.extent_eq {program : List Codon} {placed : List Handle}
    (sown : Sown program habitat placed after) :
    after.world.extent = habitat.world.extent := by
  induction sown with
  | start =>
      rfl
  | aside earlier dice journal inductionHypothesis =>
      exact inductionHypothesis
  | placed earlier onGrid unoccupied inductionHypothesis =>
      exact (World.extent_setOccupant _ _ _).trans inductionHypothesis

end Habitat

namespace Engine

variable [Dice σ] {engine after : Engine σ}

def Measured (engine : Engine σ) : Prop :=
  engine.world.extent = engine.config.extent

theorem Advanced.measured {answer : Bool}
    (inOrder : engine.toHabitat.InOrder) (measured : engine.Measured)
    (advanced : Advanced engine answer after) : after.Measured := by
  cases advanced with
  | idle empty journal =>
      exact measured
  | @went scene lively played sceneInOrder =>
      have openingInOrder : engine.opening.InOrder := inOrder
      have ended :=
        (Scene.succeeds_playAll_kept
          (fun later => later.world.extent = engine.world.extent)
          openingInOrder rfl
          fun beforeInOrder visited same =>
            (visited.extent_eq beforeInOrder).trans same).of_apply played
      exact ended.2.trans measured

theorem Outcome.measured (inOrder : engine.toHabitat.InOrder)
    (measured : engine.Measured) (outcome : Outcome engine after) :
    after.Measured := by
  cases outcome with
  | sown sown =>
      exact sown.extent_eq.trans measured
  | joined named onGrid unoccupied viable =>
      exact (World.extent_setOccupant _ _ _).trans measured
  | advanced advanced =>
      exact advanced.measured inOrder measured
  | aside notBefore journal =>
      exact measured

/-- The parameters are chosen once and for all. -/
theorem Outcome.config_eq (outcome : Outcome engine after) :
    after.config = engine.config := by
  cases outcome with
  | advanced advanced =>
      cases advanced <;> rfl
  | _ =>
      rfl

theorem Reachable.measured (reachable : Reachable engine) :
    engine.Measured := by
  induction reachable with
  | made made =>
      exact (fresh_of_make made).1.extent
  | step reached step inductionHypothesis =>
      exact (step.outcome reached.inOrder).measured reached.inOrder
        inductionHypothesis

end Engine

end Vivarium
