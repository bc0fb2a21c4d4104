import Vivarium.Proofs.Actions
import Vivarium.Proofs.Lockstep
import Vivarium.Proofs.Relabelling

/-!
# Equivariance

Nothing that a creature does depends on how positions are named or on the
numbers that stamps have: carried out in a habitat and in its image under new
labels, actions are in step. The proofs follow the text of the actions.
-/

namespace Vivarium

open Act

variable {σ : Type} {label : Relabelling} {extent : Extent}
  {excuse : Fault → Fault → Prop} {position : Position}

namespace Relabelling

def Moved (label : Relabelling) (extent : Extent)
    (position position' : Position) : Prop :=
  extent.contains position = true ∧ position' = label.move position

end Relabelling

/-! ## Habitats -/

namespace Habitat

/-- A habitat that is another one under new labels, with the same dice. -/
structure Image (label : Relabelling) (habitat habitat' : Habitat σ) :
    Prop where
  world : World.Image label habitat.world habitat'.world
  store : Store.Image label habitat.store habitat'.store
  dice : habitat'.dice = habitat.dice

/-- The image of a habitat that has all its creatures on the grid, and in which
the stamps to come have been given new numbers one after the other. -/
structure Alike (label : Relabelling) (extent : Extent)
    (habitat habitat' : Habitat σ) : Prop where
  image : Image label habitat habitat'
  spans : habitat.world.extent = extent
  grounded : habitat.store.Grounded extent
  issued : habitat'.issued = label.stamp habitat.issued
  steady : ∀ stamp, habitat.issued ≤ stamp →
    label.stamp (stamp + 1) = label.stamp stamp + 1

variable {habitat habitat' : Habitat σ} {handle : Handle}

theorem Alike.contains (alike : Alike label extent habitat habitat')
    (position : Position) :
    habitat.world.contains position = extent.contains position := by
  rw [World.contains, alike.spans]

theorem Alike.fits (alike : Alike label extent habitat habitat')
    (fits : label.Fits extent) : label.Fits habitat.world.extent := by
  rw [alike.spans]
  exact fits

private theorem Alike.reworld (alike : Alike label extent habitat habitat')
    {world world' : World} (image : World.Image label world world')
    (sameExtent : world.extent = habitat.world.extent) :
    Alike label extent { habitat with world }
      { habitat' with world := world' } :=
  ⟨⟨image, alike.image.store, alike.image.dice⟩,
    sameExtent.trans alike.spans, alike.grounded, alike.issued, alike.steady⟩

theorem Alike.restore (alike : Alike label extent habitat habitat')
    {store store' : Store} (image : Store.Image label store store')
    (grounded : store.Grounded extent) :
    Alike label extent { habitat with store }
      { habitat' with store := store' } :=
  ⟨⟨alike.image.world, image, alike.image.dice⟩, alike.spans, grounded,
    alike.issued, alike.steady⟩

theorem Alike.reroll (alike : Alike label extent habitat habitat')
    {dice dice' : σ} (same : dice' = dice) :
    Alike label extent { habitat with dice } { habitat' with dice := dice' } :=
  ⟨⟨alike.image.world, alike.image.store, same⟩, alike.spans, alike.grounded,
    alike.issued, alike.steady⟩

/-- The notices of the two may say what they like. -/
private theorem Alike.renote (alike : Alike label extent habitat habitat')
    (journal journal' : List Notice) :
    Alike label extent { habitat with journal }
      { habitat' with journal := journal' } :=
  ⟨⟨alike.image.world, alike.image.store, alike.image.dice⟩, alike.spans,
    alike.grounded, alike.issued, alike.steady⟩

theorem Alike.update (alike : Alike label extent habitat habitat')
    (fits : label.Fits extent) (onGrid : extent.contains position = true)
    {change change' : Tile → Tile}
    (corresponding : ∀ tile,
      change' (label.tile tile) = label.tile (change tile)) :
    Alike label extent
      { habitat with world := habitat.world.update position change }
      { habitat' with
        world := habitat'.world.update (label.move position) change' } := by
  rw [← alike.contains] at onGrid
  exact alike.reworld
    (alike.image.world.update (alike.fits fits) onGrid corresponding)
    (World.extent_update _ _ _)

theorem inStep_note (notice notice' : Notice) :
    InStep (Alike (σ := σ) label extent) (fun _ _ => True) excuse
      (note notice) (note notice') :=
  inStep_modify fun _ _ alike => alike.renote _ _

theorem inStep_inspect (onGrid : extent.contains position = true) :
    InStep (Alike (σ := σ) label extent)
      (fun tile tile' => tile' = label.tile tile) excuse
      (inspect position) (inspect (label.move position)) := by
  refine inStep_get.bind ?_
  intro habitat habitat' alike
  rw [← alike.contains] at onGrid
  rcases World.exists_tile? onGrid with ⟨tile, found⟩
  have found' := alike.image.world.tile position onGrid
  rw [found] at found'
  rw [World.tileAt_eq_ok_iff.2 found, World.tileAt_eq_ok_iff.2 found']
  exact inStep_pure rfl

theorem inStep_occupy (fits : label.Fits extent)
    (onGrid : extent.contains position = true) (occupant : Option Handle) :
    InStep (Alike (σ := σ) label extent) (fun _ _ => True) excuse
      (occupy position occupant)
      (occupy (label.move position) (occupant.map label.handle)) :=
  inStep_modify fun _ _ alike => alike.update fits onGrid fun _ => rfl

theorem inStep_addFood (fits : label.Fits extent)
    (onGrid : extent.contains position = true) (amount : Int) :
    InStep (Alike (σ := σ) label extent) (fun _ _ => True) excuse
      (addFood position amount) (addFood (label.move position) amount) :=
  inStep_modify fun _ _ alike => alike.update fits onGrid fun _ => rfl

theorem inStep_release (fits : label.Fits extent) (handle : Handle) :
    InStep (Alike (σ := σ) label extent) Eq excuse (release handle)
      (release (label.handle handle)) := by
  refine InStep.bind (?_ : InStep _ Eq _ _ _) ?_
  · refine inStep_modifyGet ?_
    intro habitat habitat' alike
    refine ⟨?_, alike.restore (alike.image.store.release fits handle)
      (alike.grounded.release handle)⟩
    dsimp only
    rw [Store.fst_release, Store.fst_release,
      alike.image.store.holds fits]
  · rintro released _ rfl
    refine inStep_get.bind ?_
    intro habitat habitat' alike
    rw [Relabelling.slot_handle, alike.image.store.count]
    split
    · exact (inStep_note _ _).bind fun _ _ _ => inStep_pure rfl
    · exact inStep_pure rfl

theorem inStep_spawn (reflexive : ∀ fault, excuse fault fault)
    (onGrid : extent.contains position = true) (program : List Codon) :
    InStep (Alike (σ := σ) label extent)
      (fun handle handle' => handle' = label.handle handle) excuse
      (spawn position program) (spawn (label.move position) program) := by
  intro habitat habitat' alike
  rcases alike.image.store.allocate habitat.issued with ⟨named, image⟩
  have grounded := alike.grounded.allocate habitat.issued
  have stamps : (habitat'.store.allocate habitat'.issued).2.2 =
      label.stamp (habitat.store.allocate habitat.issued).2.2 := by
    rw [Store.issued_allocate, Store.issued_allocate, alike.issued,
      alike.steady _ le_rfl]
  have steady : ∀ stamp, (habitat.store.allocate habitat.issued).2.2 ≤ stamp →
      label.stamp (stamp + 1) = label.stamp stamp + 1 := by
    intro stamp later
    rw [Store.issued_allocate] at later
    exact alike.steady stamp (Nat.le_of_succ_le later)
  rw [← alike.issued] at named image
  rw [spawn, spawn, apply_ofStep, apply_ofStep]
  cases admitted : Codon.checkProgram program with
  | error fault =>
      have refused : ∀ handle position,
          Creature.newborn handle position program = .error fault := by
        intro handle position
        rw [Creature.newborn, Creature.make, admitted]
        rfl
      simp only [Store.addCreature, refused]
      exact ⟨.error (reflexive fault),
        ⟨alike.image.world, image, alike.image.dice⟩, alike.spans, grounded,
        stamps, steady⟩
  | ok =>
      simp only [Store.addCreature, Creature.newborn_eq_ok admitted, named]
      exact ⟨.ok rfl,
        ⟨alike.image.world, image.set _ (Creature.born _ position program),
          alike.image.dice⟩,
        alike.spans, grounded.set onGrid _, stamps, steady⟩

theorem inStep_take (fits : label.Fits extent) (handle : Handle) :
    InStep (Alike (σ := σ) label extent)
      (fun creature? creature?' =>
        creature?' = creature?.map label.creature ∧
          ∀ creature ∈ creature?,
            extent.contains creature.position = true) excuse
      (take handle) (take (label.handle handle)) := by
  refine inStep_modifyGet ?_
  intro habitat habitat' alike
  refine ⟨⟨?_, ?_⟩, alike.restore (alike.image.store.take fits handle)
    (alike.grounded.take handle)⟩
  · dsimp only
    rw [Store.fst_take, Store.fst_take, alike.image.store.get fits]
  · intro creature taken
    dsimp only at taken
    rw [Store.fst_take] at taken
    exact alike.grounded.of_get taken

theorem inStep_put {creature : Creature}
    (onGrid : extent.contains creature.position = true) (handle : Handle) :
    InStep (Alike (σ := σ) label extent) (fun _ _ => True) excuse
      (put handle creature)
      (put (label.handle handle) (label.creature creature)) :=
  inStep_modify fun _ _ alike =>
    alike.restore (alike.image.store.set handle creature)
      (alike.grounded.set onGrid handle)

end Habitat

/-! ## Turns -/

namespace Turn

open Habitat

structure Alike (label : Relabelling) (extent : Extent)
    (turn turn' : Turn σ) : Prop where
  habitat : Habitat.Alike label extent turn.toHabitat turn'.toHabitat
  tally : turn'.tally = turn.tally
  actor : turn'.actor = label.creature turn.actor
  onGrid : extent.contains turn.actor.position = true

variable {turn turn' : Turn σ}

private theorem Alike.moved_neighbor (alike : Alike label extent turn turn')
    (fits : label.Fits extent) (direction : Direction) :
    label.Moved extent
      (turn.world.neighbor turn.actor.position direction.offset)
      (turn'.world.neighbor turn'.actor.position direction.offset) := by
  rw [World.neighbor, World.neighbor, alike.habitat.image.world.extent,
    alike.habitat.spans, alike.actor]
  exact ⟨Extent.contains_neighbor alike.onGrid direction.single_offset,
    fits.neighbor alike.onGrid direction⟩

theorem inStep_shared {α β : Type} {same : α → β → Prop}
    {act : Act (Habitat σ) α} {act' : Act (Habitat σ) β}
    (inStep : InStep (Habitat.Alike label extent) same excuse act act') :
    InStep (Alike label extent) same excuse (shared act) (shared act') := by
  intro turn turn' alike
  rcases inStep _ _ alike.habitat with ⟨answers, habitat⟩
  exact ⟨answers, habitat, alike.tally, alike.actor, alike.onGrid⟩

/-- What the actor makes of its energy and its registers. -/
private theorem inStep_revise (change : Creature → Creature)
    (blind : ∀ creature,
      change (label.creature creature) = label.creature (change creature))
    (still : ∀ creature, (change creature).position = creature.position) :
    InStep (Alike (σ := σ) label extent) (fun _ _ => True) excuse
      (modify fun turn => { turn with actor := change turn.actor })
      (modify fun turn => { turn with actor := change turn.actor }) := by
  refine inStep_modify ?_
  intro turn turn' alike
  refine ⟨alike.habitat, alike.tally, ?_, ?_⟩
  · dsimp only
    rw [alike.actor, blind]
  · dsimp only
    rw [still]
    exact alike.onGrid

private theorem inStep_gain (amount : Int) :
    InStep (Alike (σ := σ) label extent) (fun _ _ => True) excuse
      (gain amount) (gain amount) :=
  inStep_revise
    (fun creature => { creature with energy := creature.energy + amount })
    (fun _ => rfl) fun _ => rfl

private theorem inStep_count (event : Tally) :
    InStep (Alike (σ := σ) label extent) (fun _ _ => True) excuse
      (count event) (count event) := by
  refine inStep_modify ?_
  intro turn turn' alike
  refine ⟨alike.habitat, ?_, alike.actor, alike.onGrid⟩
  dsimp only
  rw [alike.tally]

section Reading

variable {reading : Tile → Int}
  (blind : ∀ tile, reading (label.tile tile) = reading tile)
  (reflexive : ∀ fault, excuse fault fault) (fits : label.Fits extent)
include blind reflexive fits

theorem inStep_sense :
    InStep (Alike (σ := σ) label extent) (fun _ _ => True) excuse
      (sense reading) (sense reading) := by
  have directions : List.Forall₂ Eq Direction.all Direction.all :=
    List.forall₂_refl _
  refine inStep_forM directions ?_
  rintro direction _ rfl
  refine inStep_get.bind ?_
  intro turn turn' alike
  rcases alike.moved_neighbor fits direction with ⟨onGrid, place⟩
  rw [place]
  refine (inStep_shared (inStep_inspect onGrid)).bind ?_
  rintro tile _ rfl
  rw [alike.actor, blind]
  refine (inStep_liftM reflexive _).bind ?_
  rintro sensors _ rfl
  exact inStep_revise (fun creature => { creature with sensors })
    (fun _ => rfl) fun _ => rfl

end Reading

theorem inStep_invert (reflexive : ∀ fault, excuse fault fault) :
    InStep (Alike (σ := σ) label extent) (fun _ _ => True) excuse
      invert invert := by
  refine inStep_get.bind ?_
  intro turn turn' alike
  rw [alike.actor]
  refine (inStep_liftM reflexive _).bind ?_
  rintro sensors _ rfl
  exact inStep_revise (fun creature => { creature with sensors })
    (fun _ => rfl) fun _ => rfl

section Genes

variable [Dice σ] (fits : label.Fits extent)
include fits

theorem inStep_aim :
    InStep (Alike (σ := σ) label extent) (label.Moved extent) excuse
      aim aim := by
  refine inStep_modifyGet ?_
  intro turn turn' alike
  have rolled :
      turn'.actor.sensors.chooseDirection turn'.dice =
        turn.actor.sensors.chooseDirection turn.dice := by
    rw [alike.actor, alike.habitat.image.dice]
    rfl
  dsimp only
  rw [rolled]
  exact ⟨alike.moved_neighbor fits _, alike.habitat.reroll rfl, alike.tally,
    alike.actor, alike.onGrid⟩

/-- An action that begins with a roll and a look at the tile rolled. -/
theorem inStep_look {body body' : Position → Tile → Act (Turn σ) Unit}
    (rest : ∀ target, extent.contains target = true → ∀ tile,
      InStep (Alike label extent) (fun _ _ => True) excuse
        (body target tile)
        (body' (label.move target) (label.tile tile))) :
    InStep (Alike label extent) (fun _ _ => True) excuse
      (do
        let target ← aim
        let tile ← shared (inspect target)
        body target tile)
      (do
        let target ← aim
        let tile ← shared (inspect target)
        body' target tile) := by
  refine (inStep_aim fits).bind ?_
  rintro target _ ⟨onGrid, rfl⟩
  refine (inStep_shared (inStep_inspect onGrid)).bind ?_
  rintro tile _ rfl
  exact rest target onGrid tile

theorem inStep_move :
    InStep (Alike (σ := σ) label extent) (fun _ _ => True) excuse
      move move := by
  refine inStep_look fits ?_
  intro target onGrid tile
  rw [Relabelling.isOccupied_tile]
  split
  · exact inStep_pure trivial
  · refine inStep_get.bind ?_
    intro turn turn' alike
    rw [alike.actor]
    refine (inStep_shared (inStep_inspect alike.onGrid)).andThen ?_
    refine (inStep_shared (inStep_occupy fits alike.onGrid none)).andThen ?_
    refine (inStep_shared
      (inStep_occupy fits onGrid (some turn.actor.handle))).andThen ?_
    refine inStep_modify ?_
    intro later later' alikeLater
    refine ⟨alikeLater.habitat, alikeLater.tally, ?_, onGrid⟩
    dsimp only
    rw [alikeLater.actor]
    rfl

theorem inStep_eat :
    InStep (Alike (σ := σ) label extent) (fun _ _ => True) excuse
      eat eat := by
  refine inStep_look fits ?_
  intro target onGrid tile
  rw [Relabelling.isOccupied_tile]
  split
  · exact inStep_pure trivial
  · refine (inStep_gain _).andThen ?_
    exact inStep_shared (inStep_addFood fits onGrid _)

omit [Dice σ] in
theorem inStep_strike {target : Position}
    (onGrid : extent.contains target = true) (victim : Creature) :
    InStep (Alike (σ := σ) label extent) (fun _ _ => True) excuse
      (strike target victim)
      (strike (label.move target) (label.creature victim)) := by
  rw [strike, strike, Relabelling.energy_creature]
  by_cases weak : victim.energy ≤ attackDamage
  · rw [if_pos weak, if_pos weak]
    refine (inStep_gain _).andThen ?_
    refine (inStep_shared (inStep_occupy fits onGrid none)).andThen ?_
    refine (inStep_shared (inStep_release fits victim.handle)).andThen ?_
    refine (inStep_count _).andThen ?_
    refine inStep_get.bind ?_
    intro _ _ _
    exact inStep_shared (inStep_note _ _)
  · rw [if_neg weak, if_neg weak]
    refine InStep.andThen (inStep_modify ?_) (inStep_gain _)
    intro turn turn' alike
    exact ⟨alike.habitat.restore
      (alike.habitat.image.store.modify fits victim.handle fun _ => rfl)
      (alike.habitat.grounded.modify victim.handle fun _ => rfl),
      alike.tally, alike.actor, alike.onGrid⟩

theorem inStep_attack :
    InStep (Alike (σ := σ) label extent) (fun _ _ => True) excuse
      attack attack := by
  refine inStep_look fits ?_
  intro target onGrid tile
  cases occupied : tile.occupant with
  | none =>
      simp only [Relabelling.tile, occupied, Option.map_none]
      exact inStep_pure trivial
  | some occupant =>
      simp only [Relabelling.tile, occupied, Option.map_some]
      refine inStep_get.bind ?_
      intro turn turn' alike
      rw [alike.habitat.image.store.get fits]
      cases turn.store.get occupant with
      | none =>
          refine inStep_get.bind ?_
          intro _ _ _
          exact inStep_shared (inStep_note _ _)
      | some victim =>
          exact inStep_strike fits onGrid victim

omit fits in
theorem inStep_inherit (reflexive : ∀ fault, excuse fault fault) :
    InStep (Alike (σ := σ) label extent) Eq excuse inherit inherit := by
  intro turn turn' alike
  have mutated : mutate turn'.actor.program turn'.dice =
      mutate turn.actor.program turn.dice := by
    rw [alike.actor, alike.habitat.image.dice]
    rfl
  rw [inherit, apply_ofStep, apply_ofStep]
  dsimp only
  rw [mutated]
  exact ⟨.refl reflexive _, alike.habitat.reroll rfl, alike.tally, alike.actor,
    alike.onGrid⟩

theorem inStep_reproduce (reflexive : ∀ fault, excuse fault fault) :
    InStep (Alike (σ := σ) label extent) (fun _ _ => True) excuse
      reproduce reproduce := by
  refine inStep_get.bind ?_
  intro turn turn' alike
  rw [alike.actor, Relabelling.energy_creature]
  by_cases poor : turn.actor.energy < reproduceThreshold
  · rw [if_pos poor]
    exact inStep_pure trivial
  · rw [if_neg poor]
    refine inStep_look fits ?_
    intro target onGrid tile
    rw [Relabelling.isOccupied_tile]
    split
    · exact inStep_pure trivial
    · refine (inStep_inherit reflexive).bind ?_
      rintro program _ rfl
      refine (inStep_shared (inStep_spawn reflexive onGrid program)).bind ?_
      rintro child _ rfl
      refine (inStep_shared (inStep_occupy fits onGrid (some child))).andThen ?_
      refine (inStep_gain _).andThen ?_
      refine (inStep_count _).andThen ?_
      refine inStep_get.bind ?_
      intro _ _ _
      exact inStep_shared (inStep_note _ _)

theorem inStep_perform (reflexive : ∀ fault, excuse fault fault)
    (gene : Gene) :
    InStep (Alike (σ := σ) label extent) (fun _ _ => True) excuse
      (perform gene) (perform gene) := by
  cases gene with
  | nop =>
      exact inStep_pure trivial
  | lookForFood =>
      exact inStep_sense (fun _ => rfl) reflexive fits
  | lookForCreature =>
      refine inStep_sense ?_ reflexive fits
      intro tile
      simp [creatureReading]
  | move =>
      exact inStep_move fits
  | eat =>
      exact inStep_eat fits
  | attack =>
      exact inStep_attack fits
  | reproduce =>
      exact inStep_reproduce fits reflexive
  | invert =>
      exact inStep_invert reflexive

end Genes

/-! ### Whole turns -/

section Turns

variable [Dice σ] (fits : label.Fits extent)
include fits

/-- A fault may name a handle or a position, so two faults of a turn are not
compared. -/
theorem inStep_runProgram :
    InStep (Alike (σ := σ) label extent) (fun _ _ => True) (fun _ _ => True)
      runProgram runProgram := by
  refine inStep_get.bind ?_
  intro turn turn' alike
  dsimp only
  rw [alike.actor, Relabelling.program_creature]
  by_cases runnable : 1 ≤ turn.actor.program.length ∧
      turn.actor.program.length ≤ Gene.maxProgram
  · rw [if_pos runnable, if_pos runnable]
    have entries : List.Forall₂ Eq turn.actor.program turn.actor.program :=
      List.forall₂_refl _
    refine inStep_forM entries ?_
    rintro codon _ rfl
    unfold carryOut
    cases codon.meaning? with
    | none =>
        exact inStep_throw trivial
    | some gene =>
        exact inStep_perform fits (fun _ => trivial) gene
  · rw [if_neg runnable, if_neg runnable]
    exact inStep_throw trivial

omit [Dice σ] in
theorem inStep_payUpkeep :
    InStep (Alike (σ := σ) label extent) Eq excuse payUpkeep payUpkeep := by
  refine inStep_get.bind ?_
  intro turn turn' alike
  dsimp only
  rw [alike.actor, Relabelling.energy_creature,
    Relabelling.metabolism_creature]
  refine (inStep_shared (inStep_inspect alike.onGrid)).andThen ?_
  by_cases broke : turn.actor.energy ≤ turn.actor.metabolism
  · rw [if_pos broke, if_pos broke]
    refine (inStep_shared (inStep_addFood fits alike.onGrid _)).andThen ?_
    refine (inStep_gain _).andThen ?_
    refine (inStep_shared (inStep_occupy fits alike.onGrid none)).andThen ?_
    refine (inStep_shared (inStep_release fits turn.actor.handle)).andThen ?_
    refine (inStep_count _).andThen ?_
    refine (inStep_shared (inStep_note _ _)).andThen ?_
    exact inStep_pure rfl
  · rw [if_neg broke, if_neg broke]
    refine (inStep_shared (inStep_addFood fits alike.onGrid _)).andThen ?_
    refine (inStep_gain _).andThen ?_
    exact inStep_pure rfl

theorem inStep_play :
    InStep (Alike (σ := σ) label extent) Eq (fun _ _ => True) play play := by
  refine inStep_get.bind ?_
  intro turn turn' alike
  rw [alike.actor, Relabelling.energy_creature]
  by_cases spent : turn.actor.energy = 0
  · rw [if_pos spent]
    exact inStep_pure rfl
  · rw [if_neg spent]
    refine (inStep_runProgram fits).andThen ?_
    exact inStep_payUpkeep fits

end Turns

end Turn

end Vivarium
