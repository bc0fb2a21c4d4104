import Mathlib.Order.Monotone.Basic
import Vivarium.Proofs.RoundsInStep
import Vivarium.Proofs.Schedule

/-!
# Renaming of stamps

What is done to a simulation does not depend on the numbers its stamps have,
as long as later ones have greater numbers. A search for free tiles looks at
the same tiles, a newcomer gets the same slot, and answers are the same but for
the stamps in them.
-/

namespace Vivarium

open Act

variable {σ : Type} {extent : Extent} {rename : Nat → Nat}

namespace Relabelling

def restamping (rename : Nat → Nat) : Relabelling where
  move := id
  stamp := rename

theorem fits_restamping (increasing : StrictMono rename) (extent : Extent) :
    (restamping rename).Fits extent where
  injective := fun _ _ same => same
  neighbor := fun _ _ => rfl
  stamps := increasing.injective

end Relabelling

/-! ## Newcomers in step -/

namespace Habitat

def Renamed (rename : Nat → Nat) (handles handles' : List Handle) : Prop :=
  handles' = handles.map (Relabelling.restamping rename).handle

private theorem roll_congr [Dice σ] {dice dice' : σ} (sameDice : dice' = dice)
    {sides sides' : Nat} (same : sides' = sides) (positive : 0 < sides)
    (positive' : 0 < sides') :
    (Dice.roll dice' sides' positive').1.val =
        (Dice.roll dice sides positive).1.val ∧
      (Dice.roll dice' sides' positive').2 =
        (Dice.roll dice sides positive).2 := by
  subst sameDice same
  exact ⟨rfl, rfl⟩

section Seeding

variable [Dice σ]

theorem inStep_rollPosition :
    InStep (Alike (σ := σ) (.restamping rename) extent)
      ((Relabelling.restamping rename).Moved extent) Eq rollPosition
      rollPosition := by
  refine inStep_modifyGet ?_
  intro habitat habitat' alike
  have sameExtent := alike.image.world.extent
  simp only [World.extent, Extent.mk.injEq] at sameExtent
  have wide : habitat'.world.width = habitat.world.width := by
    omega
  have high : habitat'.world.height = habitat.world.height := by
    omega
  have column := roll_congr alike.image.dice wide habitat.world.width_pos
    habitat'.world.width_pos
  have row := roll_congr column.2 high habitat.world.height_pos
    habitat'.world.height_pos
  dsimp only
  refine ⟨⟨?_, ?_⟩, alike.reroll row.2⟩
  · rw [← alike.contains]
    exact contains_rolled habitat.world _ _
  · rw [column.1, row.1]
    rfl

theorem inStep_rollFree (patience : Nat) :
    InStep (Alike (σ := σ) (.restamping rename) extent)
      ((Relabelling.restamping rename).Moved extent) Eq (rollFree patience)
      (rollFree patience) := by
  induction patience with
  | zero =>
      exact inStep_throw rfl
  | succ patience inductionHypothesis =>
      refine inStep_rollPosition.bind ?_
      rintro position _ ⟨onGrid, rfl⟩
      refine (inStep_inspect onGrid).bind ?_
      rintro tile _ rfl
      rw [Relabelling.isOccupied_tile]
      split
      · exact inductionHypothesis
      · exact inStep_pure ⟨onGrid, rfl⟩

variable (fits : (Relabelling.restamping rename).Fits extent)
include fits

theorem inStep_placeOne (program : List Codon) (patience : Nat) :
    InStep (Alike (σ := σ) (.restamping rename) extent)
      (fun handle handle' =>
        handle' = (Relabelling.restamping rename).handle handle)
      Eq (placeOne program patience) (placeOne program patience) := by
  refine (inStep_rollFree patience).bind ?_
  rintro position _ ⟨onGrid, rfl⟩
  refine (inStep_spawn (fun _ => rfl) onGrid program).bind ?_
  rintro handle _ rfl
  refine (inStep_occupy fits onGrid (some handle)).andThen ?_
  exact inStep_pure rfl

theorem inStep_placeMany (program : List Codon) (patience count : Nat)
    (placed : List Handle) :
    InStep (Alike (σ := σ) (.restamping rename) extent) (Renamed rename) Eq
      (placeMany program patience count placed)
      (placeMany program patience count
        (placed.map (Relabelling.restamping rename).handle)) := by
  induction count generalizing placed with
  | zero =>
      exact inStep_pure rfl
  | succ count inductionHypothesis =>
      refine (inStep_placeOne fits program patience).bind ?_
      rintro handle _ rfl
      exact inductionHypothesis (handle :: placed)

theorem inStep_populate (count : Int) (program : List Codon)
    (patience : Nat) :
    InStep (Alike (σ := σ) (.restamping rename) extent) (Renamed rename) Eq
      (populate count program patience) (populate count program patience) := by
  refine inStep_get.bind ?_
  intro habitat habitat' alike
  have free : habitat'.freeTiles = habitat.freeTiles := by
    rw [freeTiles, freeTiles, alike.image.world.extent,
      alike.image.world.occupiedCount_eq (alike.fits fits)]
  rw [free]
  split
  · exact inStep_throw rfl
  · refine (inStep_placeMany fits program patience count.toNat []).bind ?_
    rintro placed _ rfl
    refine (inStep_note _ _).andThen ?_
    exact inStep_pure (List.map_reverse).symm

end Seeding

theorem inStep_place (fits : (Relabelling.restamping rename).Fits extent)
    {position : Position} (onGrid : extent.contains position = true)
    (program : List Codon) (energy : Int) (sensors : Sensors) :
    InStep (Alike (σ := σ) (.restamping rename) extent)
      (fun handle handle' =>
        handle' = (Relabelling.restamping rename).handle handle)
      Eq (place position program energy sensors)
      (place position program energy sensors) := by
  refine (inStep_spawn (fun _ => rfl) onGrid program).bind ?_
  rintro handle _ rfl
  refine InStep.andThen (inStep_modify ?_) ?_
  · intro habitat habitat' alike
    exact alike.restore
      (alike.image.store.modify fits handle fun _ => rfl)
      (alike.grounded.modify handle fun _ => rfl)
  · refine (inStep_inspect onGrid).andThen ?_
    refine (inStep_occupy fits onGrid (some handle)).andThen ?_
    exact inStep_pure rfl

end Habitat

/-! ## Stamps in use -/

namespace Habitat

variable {habitat habitat' after : Habitat σ} {rename' : Nat → Nat}

theorem Sown.issued_le {program : List Codon} {placed : List Handle}
    (sown : Sown program habitat placed after) :
    habitat.issued ≤ after.issued ∧
      ∀ handle ∈ placed, handle.generation < after.issued := by
  induction sown with
  | start =>
      exact ⟨Nat.le_refl _, nofun⟩
  | aside earlier dice journal inductionHypothesis =>
      exact inductionHypothesis
  | @placed placed before position earlier onGrid unoccupied
      inductionHypothesis =>
      rcases inductionHypothesis with ⟨notBefore, known⟩
      have next : (before.joined (Creature.born before.nextHandle position
          program)).issued = before.issued + 1 :=
        Store.issued_allocate _ _
      rw [next]
      refine ⟨Nat.le_succ_of_le notBefore, ?_⟩
      intro handle listed
      rcases List.mem_cons.1 listed with rfl | older
      · have stamp : before.nextHandle.generation = before.issued :=
          Store.generation_allocate _ _
        omega
      · exact Nat.lt_succ_of_lt (known handle older)

/-- Only the stamps in use matter. -/
theorem Image.restamp (image : Image (.restamping rename) habitat habitat')
    (inOrder : habitat.InOrder)
    (agree : ∀ stamp < habitat.issued, rename' stamp = rename stamp) :
    Image (.restamping rename') habitat habitat' := by
  have settled := inOrder.consistent.settled
  have same : ∀ handle : Handle, handle.generation < habitat.issued →
      (Relabelling.restamping rename').handle handle =
        (Relabelling.restamping rename).handle handle := by
    intro handle used
    simp [Relabelling.handle, Relabelling.restamping, agree _ used]
  refine ⟨⟨image.world.extent, ?_⟩,
    ⟨image.store.count, ?_, image.store.free⟩, image.dice⟩
  · intro position onGrid
    have found' := image.world.tile position onGrid
    rcases World.exists_tile? onGrid with ⟨⟨food, occupant?⟩, found⟩
    rw [found] at found' ⊢
    cases occupant? with
    | none =>
        exact found'
    | some occupant =>
        obtain ⟨resident, present, rfl, -⟩ :=
          settled.resolved (World.occupant?_of_tile? found)
        simp only [Option.map_some, Relabelling.tile,
          same _ (settled.stamped present)]
        exact found'
  · intro index
    rw [image.store.slot]
    cases stored : habitat.store.slot index with
    | vacant =>
        rfl
    | stored creature =>
        have used := settled.stamped
          (Store.residents_none_eq_some_iff.2 stored)
        simp only [Relabelling.slot, Relabelling.creature, same _ used]
        rfl
    | checkedOut handle =>
        exact absurd stored
          (inOrder.consistent.slot_ne_checkedOut index handle)

/-- What is there does not depend on the stamp that comes next. -/
theorem Image.recount (habitat : Habitat σ) (issued : Nat) :
    Image (.restamping id) habitat { habitat with issued := issued } := by
  refine ⟨⟨rfl, ?_⟩, ⟨rfl, ?_, rfl⟩, rfl⟩
  · intro position onGrid
    show habitat.world.tile? position = _
    rcases habitat.world.tile? position with _ | ⟨food, _ | occupant⟩ <;> rfl
  · intro index
    show habitat.store.slot index = _
    cases habitat.store.slot index <;> rfl

end Habitat

namespace Engine

variable [Dice σ] {engine engine' after : Engine σ}

theorem Outcome.issued_le (inOrder : engine.toHabitat.InOrder)
    (outcome : Outcome engine after) : engine.issued ≤ after.issued := by
  cases outcome with
  | sown sown =>
      exact sown.issued_le.1
  | joined named onGrid unoccupied viable =>
      refine Nat.le_of_lt ?_
      rw [show (engine.joined _).issued = engine.issued + 1 from
        Store.issued_allocate _ _]
      exact Nat.lt_succ_self _
  | aside notBefore journal =>
      exact notBefore
  | advanced advanced =>
      cases advanced with
      | idle empty journal =>
          exact Nat.le_refl _
      | @went scene lively played sceneInOrder =>
          have openingInOrder : engine.opening.InOrder := inOrder
          have ended :=
            (Scene.succeeds_playAll_kept
              (fun later => engine.issued ≤ later.issued) openingInOrder
              (Nat.le_refl _)
              fun beforeInOrder visited notBefore =>
                notBefore.trans (visited.issued_le beforeInOrder)).of_apply
              played
          exact ended.2

end Engine

end Vivarium
