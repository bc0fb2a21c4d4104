import Vivarium.Proofs.Extents
import Vivarium.Proofs.Equivariance
import Vivarium.Run

/-!
# Rounds in step

A round of a simulation and one of its image under new labels: each visit of
the one is a visit of the other, so the rounds answer the same and leave images
of each other. Runs go on in step for as long as the rounds do.
-/

namespace Vivarium

open Act

variable {σ : Type} {label : Relabelling} {extent : Extent}
  {excuse : Fault → Fault → Prop}

/-! ## Scenes -/

namespace Scene

open Habitat

structure Alike (label : Relabelling) (extent : Extent)
    (scene scene' : Scene σ) : Prop where
  habitat : Habitat.Alike label extent scene.toHabitat scene'.toHabitat
  tally : scene'.tally = scene.tally

theorem inStep_shared {α β : Type} {same : α → β → Prop}
    {act : Act (Habitat σ) α} {act' : Act (Habitat σ) β}
    (inStep : InStep (Habitat.Alike label extent) same excuse act act') :
    InStep (Alike label extent) same excuse (shared act) (shared act') := by
  intro scene scene' alike
  rcases inStep _ _ alike.habitat with ⟨answers, habitat⟩
  exact ⟨answers, habitat, alike.tally⟩

section Visits

variable [Dice σ] (fits : label.Fits extent)
include fits

theorem inStep_act {actor : Creature}
    (onGrid : extent.contains actor.position = true) :
    InStep (Alike (σ := σ) label extent)
      (fun ended ended' =>
        ended' = (ended.1, label.creature ended.2) ∧
          extent.contains ended.2.position = true)
      (fun _ _ => True) (act actor) (act (label.creature actor)) := by
  intro scene scene' alike
  have played := Turn.inStep_play fits { scene with actor }
    { scene' with actor := label.creature actor }
    ⟨alike.habitat, alike.tally, rfl, onGrid⟩
  rw [act, act, apply_ofStep, apply_ofStep]
  dsimp only
  generalize Turn.play.apply { scene with actor } = ended at played ⊢
  generalize Turn.play.apply
    { scene' with actor := label.creature actor } = ended' at played ⊢
  rcases ended with ⟨life, turn⟩
  rcases ended' with ⟨life', turn'⟩
  rcases played with ⟨answers, turnAlike⟩
  have sceneAlike : Alike label extent turn.toScene turn'.toScene :=
    ⟨turnAlike.habitat, turnAlike.tally⟩
  cases answers with
  | error excused =>
      exact ⟨.error trivial, sceneAlike⟩
  | ok sameLife =>
      subst sameLife
      refine ⟨.ok ⟨?_, turnAlike.onGrid⟩, sceneAlike⟩
      rw [← turnAlike.actor]

omit [Dice σ] in
theorem inStep_settle (handle : Handle) (life : Life) {creature : Creature}
    (onGrid : extent.contains creature.position = true) :
    InStep (Alike (σ := σ) label extent) (fun _ _ => True) excuse
      (settle handle life creature)
      (settle (label.handle handle) life (label.creature creature)) := by
  cases life with
  | alive =>
      exact inStep_shared (inStep_put onGrid handle)
  | dead =>
      refine inStep_get.bind ?_
      intro scene scene' alike
      rw [alike.habitat.image.store.isOut fits]
      by_cases isOut : scene.store.isOut handle = true
      · rw [if_pos isOut, if_pos isOut]
        refine (inStep_shared (inStep_inspect onGrid)).andThen ?_
        refine (inStep_shared (inStep_occupy fits onGrid none)).andThen ?_
        refine (inStep_shared (inStep_release fits handle)).andThen ?_
        exact inStep_pure trivial
      · rw [if_neg isOut, if_neg isOut]
        exact inStep_pure trivial

theorem inStep_playHandle (handle : Handle) :
    InStep (Alike (σ := σ) label extent) (fun _ _ => True) (fun _ _ => True)
      (playHandle handle) (playHandle (label.handle handle)) := by
  refine (inStep_shared (inStep_take fits handle)).bind ?_
  rintro taken _ ⟨rfl, onGrid⟩
  cases taken with
  | none =>
      exact inStep_pure trivial
  | some actor =>
      refine (inStep_act fits (onGrid actor rfl)).bind ?_
      rintro ⟨life, creature⟩ _ ⟨rfl, onGridAfter⟩
      exact inStep_settle fits handle life onGridAfter

theorem inStep_playAll (handles : List Handle) :
    InStep (Alike (σ := σ) label extent) (fun _ _ => True) (fun _ _ => True)
      (playAll handles) (playAll (handles.map label.handle)) := by
  have corresponding :
      List.Forall₂ (fun handle handle' => handle' = label.handle handle)
        handles (handles.map label.handle) :=
    List.forall₂_map_right_iff.2 (List.forall₂_same.2 fun _ _ => rfl)
  refine inStep_forM corresponding ?_
  rintro handle _ rfl
  exact inStep_playHandle fits handle

end Visits

end Scene

/-! ## Simulations -/

namespace Engine

open Habitat

/-- A simulation that is another one under new labels. Apart from their habitats
the two are the same. -/
structure Image (label : Relabelling) (engine engine' : Engine σ) : Prop where
  habitat : Habitat.Image label engine.toHabitat engine'.toHabitat
  rest : engine' = { engine with toHabitat := engine'.toHabitat }

structure Alike (label : Relabelling) (extent : Extent)
    (engine engine' : Engine σ) : Prop where
  habitat : Habitat.Alike label extent engine.toHabitat engine'.toHabitat
  rest : engine' = { engine with toHabitat := engine'.toHabitat }

variable {engine engine' : Engine σ}

theorem Alike.image (alike : Alike label extent engine engine') :
    Image label engine engine' :=
  ⟨alike.habitat.image, alike.rest⟩

theorem inStep_shared {α β : Type} {same : α → β → Prop}
    {act : Act (Habitat σ) α} {act' : Act (Habitat σ) β}
    (inStep : InStep (Habitat.Alike label extent) same excuse act act') :
    InStep (Alike label extent) same excuse (shared act) (shared act') := by
  intro engine engine' alike
  rcases inStep _ _ alike.habitat with ⟨answers, habitat⟩
  refine ⟨answers, habitat, ?_⟩
  exact congrArg
    (fun engine =>
      { engine with toHabitat := (act'.apply engine'.toHabitat).2 })
    alike.rest

/-- What does not concern the habitat. -/
private theorem inStep_amend (change : Engine σ → Engine σ)
    (apart : ∀ engine habitat,
      change { engine with toHabitat := habitat } =
        { change engine with toHabitat := habitat }) :
    InStep (Alike (σ := σ) label extent) (fun _ _ => True) excuse
      (modify change) (modify change) := by
  refine inStep_modify ?_
  intro engine engine' alike
  have kept : ∀ engine, (change engine).toHabitat = engine.toHabitat := by
    intro engine
    have same := congrArg Engine.toHabitat (apart engine engine.toHabitat)
    exact same
  refine ⟨?_, ?_⟩
  · rw [kept, kept]
    exact alike.habitat
  · rw [kept, ← apart, ← alike.rest]

theorem Alike.stats_eq (alike : Alike label extent engine engine')
    (fits : label.Fits extent) : engine'.stats = engine.stats := by
  have creatures := alike.habitat.image.store.creatures
  have food :=
    alike.habitat.image.world.totalFood_eq (alike.habitat.fits fits)
  have round := congrArg Engine.round alike.rest
  have totals := congrArg Engine.totals alike.rest
  have extinct := congrArg Engine.extinct alike.rest
  simp only [stats, creatures, food, round, totals, extinct, List.map_map,
    List.length_map, Census.countDiet, List.countP_map, Function.comp_def]
  rfl

theorem inStep_noteStats (fits : label.Fits extent) :
    InStep (Alike (σ := σ) label extent) (fun _ _ => True) Eq noteStats
      noteStats := by
  refine inStep_get.bind ?_
  intro engine engine' alike
  have config := congrArg Engine.config alike.rest
  have round := congrArg Engine.round alike.rest
  dsimp only
  rw [config, round]
  split
  · rw [alike.stats_eq fits]
    refine (inStep_liftM (fun _ => rfl) _).bind ?_
    rintro stats _ rfl
    refine (inStep_liftM (fun _ => rfl) _).bind ?_
    rintro line _ rfl
    exact inStep_shared (inStep_note _ _)
  · exact inStep_pure trivial

section Rounds

variable [Dice σ] (fits : label.Fits extent)
include fits

private theorem inStep_stage (handles : List Handle) :
    InStep (Alike (σ := σ) label extent)
      (fun answer answer' => answer'.2 = answer.2) (fun _ _ => True)
      (stage (Scene.playAll handles))
      (stage (Scene.playAll (handles.map label.handle))) := by
  intro engine engine' alike
  have played := Scene.inStep_playAll fits handles
    { engine.toHabitat with tally := .zero }
    { engine'.toHabitat with tally := .zero } ⟨alike.habitat, rfl⟩
  rw [stage, stage, apply_ofStep, apply_ofStep]
  dsimp only
  generalize (Scene.playAll handles).apply
    { engine.toHabitat with tally := .zero } = ended at played ⊢
  generalize (Scene.playAll (handles.map label.handle)).apply
    { engine'.toHabitat with tally := .zero } = ended' at played ⊢
  rcases ended with ⟨result, scene⟩
  rcases ended' with ⟨result', scene'⟩
  rcases played with ⟨answers, sceneAlike⟩
  have engineAlike : Alike label extent
      { engine with toHabitat := scene.toHabitat }
      { engine' with toHabitat := scene'.toHabitat } := by
    refine ⟨sceneAlike.habitat, ?_⟩
    exact congrArg
      (fun engine => { engine with toHabitat := scene'.toHabitat })
      alike.rest
  cases answers with
  | error excused =>
      exact ⟨.error trivial, engineAlike⟩
  | ok answered =>
      exact ⟨.ok sceneAlike.tally, engineAlike⟩

theorem inStep_advance :
    InStep (Alike (σ := σ) label extent) Eq (fun _ _ => True) advance
      advance := by
  refine inStep_get.bind ?_
  intro engine engine' alike
  have extinct := congrArg Engine.extinct alike.rest
  dsimp only
  rw [alike.habitat.image.store.handles, List.length_map,
    alike.habitat.image.world.occupiedCount_eq (alike.habitat.fits fits),
    List.isEmpty_map, extinct]
  refine (inStep_shared (inStep_note _ _)).andThen ?_
  split
  · exact inStep_throw trivial
  · split
    · have ends : InStep (Alike (σ := σ) label extent) Eq
          (fun _ _ => True)
          (do
            modify fun engine => { engine with extinct := true }
            return false)
          (do
            modify fun engine => { engine with extinct := true }
            return false) := by
        refine InStep.andThen (inStep_amend _ fun _ _ => rfl) ?_
        exact inStep_pure rfl
      split
      · refine (inStep_shared (inStep_note _ _)).andThen ?_
        exact ends
      · exact ends
    · refine (inStep_stage fits engine.store.handles).bind ?_
      rintro ⟨_, tally⟩ ⟨_, _⟩ rfl
      refine InStep.andThen (inStep_amend _ fun _ _ => rfl) ?_
      exact inStep_pure rfl

end Rounds

/-! ## Runs -/

theorem Reachable.grounded [Dice σ] (reachable : Reachable engine) :
    engine.store.Grounded engine.config.extent := by
  have measured : engine.world.extent = engine.config.extent :=
    reachable.measured
  intro index creature stored
  rw [← measured]
  exact reachable.inOrder.consistent.settled.contains
    (Store.residents_none_eq_some_iff.2 stored)

structure Paired (label : Relabelling) (extent : Extent)
    (engine engine' : Engine σ) : Prop where
  alike : Alike label extent engine engine'
  inOrder : engine.toHabitat.InOrder
  extent : engine.config.extent = extent

section Runs

variable [Dice σ] (fits : label.Fits extent)
include fits

/-- Rounds of simulations in order go through. -/
theorem paired_advance :
    InStep (Paired (σ := σ) label extent) Eq Eq advance advance := by
  intro engine engine' paired
  obtain ⟨answer, after, applied, advanced⟩ :=
    (succeeds_advance paired.inOrder).exists_apply
  obtain ⟨_, after', applied', rfl, alikeAfter⟩ :=
    (inStep_advance fits).exists_apply paired.alike applied
  have sameConfig := (Outcome.advanced advanced).config_eq
  rw [applied, applied']
  refine ⟨.ok rfl, alikeAfter, advanced.inOrder paired.inOrder, ?_⟩
  dsimp only
  rw [sameConfig]
  exact paired.extent

omit [Dice σ] in
private theorem paired_noteStats :
    InStep (Paired (σ := σ) label extent) (fun _ _ => True) Eq noteStats
      noteStats := by
  intro engine engine' paired
  rcases inStep_noteStats fits engine engine' paired.alike with
    ⟨answers, alike⟩
  have noted := noted_noteStats engine
  refine ⟨answers, alike, noted.inOrder paired.inOrder, ?_⟩
  rw [noted.config_eq]
  exact paired.extent

theorem paired_runRounds (limit completed : Nat) :
    InStep (Paired (σ := σ) label extent) Eq Eq (runRounds limit completed)
      (runRounds limit completed) := by
  induction limit generalizing completed with
  | zero =>
      exact inStep_pure rfl
  | succ limit inductionHypothesis =>
      refine (paired_advance fits).bind ?_
      rintro goesOn _ rfl
      cases goesOn with
      | true =>
          refine (paired_noteStats fits).andThen ?_
          exact inductionHypothesis (completed + 1)
      | false =>
          exact inStep_pure rfl

theorem paired_run (patience : Nat) (bound : Option Int) :
    InStep (Paired (σ := σ) label extent) Eq Eq (run patience bound)
      (run patience bound) := by
  refine inStep_get.bind ?_
  intro engine engine' paired
  have config := congrArg Engine.config paired.alike.rest
  rw [config]
  dsimp only
  generalize (bound <|> engine.config.maxRounds) = limit?
  cases limit? with
  | some limit =>
      exact paired_runRounds fits limit.toNat 0
  | none =>
      refine (paired_runRounds fits patience 0).bind ?_
      rintro completed _ rfl
      by_cases unfinished : completed = patience
      · rw [if_pos unfinished]
        exact inStep_throw rfl
      · rw [if_neg unfinished]
        exact inStep_pure rfl

end Runs

end Engine

end Vivarium
