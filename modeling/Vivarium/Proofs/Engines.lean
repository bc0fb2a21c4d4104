import Vivarium.Census
import Vivarium.Proofs.Arrivals
import Vivarium.Proofs.Rollcall
import Vivarium.Proofs.Visits

/-!
# Engines

What a new simulation looks like, and how seeding and a round end. A round of
a simulation that is in order goes through. The statistics after it leave
everything as it is but for a notice.
-/

namespace Vivarium

variable {σ : Type}

namespace Engine

open Habitat

variable {engine : Engine σ}

@[simp]
theorem ends_shared {α : Type} {act : Act (Habitat σ) α}
    {post : α → Engine σ → Prop} {fail : Fault → Engine σ → Prop} :
    (shared act).Ends engine post fail ↔
      act.Ends engine.toHabitat
        (fun value after => post value { engine with toHabitat := after })
        (fun fault after =>
          fail fault { engine with toHabitat := after }) := by
  unfold Act.Ends shared
  rw [Act.apply_ofStep]
  rcases act.apply engine.toHabitat with ⟨_ | _, _⟩ <;> rfl

/-! ## New simulations -/

/-- A simulation in which nothing has happened yet. -/
structure Fresh (engine : Engine σ) : Prop where
  accepted : engine.config.validate = .ok ()
  extent : engine.world.extent = engine.config.extent
  bare : engine.world.Bare engine.config.startingFood
  stored : engine.store = .empty
  totals : engine.totals = .zero

section Make

variable {config : Config} {seed : Option Int} {dice : σ} {issued : Nat}
  {runId : String}

/-- A simulation is made of parameters that are accepted, with a seed that can
be written. -/
theorem make_eq_ok_iff :
    make config seed dice issued runId = .ok engine ↔
      config.validate = .ok () ∧
        (∀ value ∈ seed, Figure.Short value) ∧
        ∃ world,
          World.make config.width config.height config.startingFood =
              .ok world ∧
            engine = {
              world, issued, dice, config, seed
              store := .empty
              journal :=
                [.engineStarted runId config.width config.height seed]
              round := 0
              totals := .zero
              extinct := false } := by
  rw [← Notice.exists_message_engineStarted_iff, make]
  cases config.validate with
  | error fault =>
      exact ⟨nofun, nofun⟩
  | ok =>
      cases World.make config.width config.height config.startingFood with
      | error fault =>
          exact ⟨nofun, nofun⟩
      | ok world =>
          dsimp only [bind, Except.bind]
          split
          · next refused =>
            refine ⟨nofun, ?_⟩
            rintro ⟨-, ⟨told, message⟩, -⟩
            rw [refused] at message
            cases message
          · next told message =>
            constructor
            · intro made
              cases made
              exact ⟨rfl, ⟨told, message⟩, world, rfl, rfl⟩
            · rintro ⟨-, -, _, same, rfl⟩
              cases same
              rfl

theorem exists_world (accepted : config.validate = .ok ()) :
    ∃ world, World.make config.width config.height config.startingFood =
      .ok world := by
  rcases Config.validate_eq_ok_iff.1 accepted with ⟨⟨wide, high⟩, -⟩
  obtain ⟨world, made, -⟩ :=
    World.exists_make wide high config.startingFood
  exact ⟨world, made⟩

theorem exists_make_unseeded (accepted : config.validate = .ok ())
    (dice : σ) (issued : Nat) (runId : String) :
    ∃ engine, make config none dice issued runId = .ok engine := by
  obtain ⟨world, made⟩ := exists_world accepted
  exact ⟨_, make_eq_ok_iff.2 ⟨accepted, by simp, world, made, rfl⟩⟩

theorem fresh_of_make
    (made : make config seed dice issued runId = .ok engine) :
    engine.Fresh ∧ engine.config = config := by
  obtain ⟨accepted, -, world, worldMade, rfl⟩ := make_eq_ok_iff.1 made
  rcases Config.validate_eq_ok_iff.1 accepted with ⟨⟨wide, high⟩, -⟩
  obtain ⟨_, sameWorld, extent, bare⟩ :=
    World.exists_make wide high config.startingFood
  rw [worldMade] at sameWorld
  cases sameWorld
  exact ⟨⟨accepted, extent, bare, rfl, rfl⟩, rfl⟩

end Make

theorem Fresh.inOrder (fresh : engine.Fresh) : engine.toHabitat.InOrder := by
  rcases Config.validate_eq_ok_iff.1 fresh.accepted with ⟨-, -, food, -⟩
  rw [Habitat.InOrder, fresh.stored]
  refine ⟨?_, ?_⟩
  · intro index handle
    have vacant : Store.empty.slot index = .vacant := rfl
    rw [vacant]
    simp
  · refine Settled.nobody fresh.bare.occupant?_eq_none ?_
    intro position tile found
    rw [fresh.bare.eq_of_tile? found]
    exact food

/-- A new simulation has room for its first population. -/
theorem Fresh.room (fresh : engine.Fresh) :
    engine.config.initialPopulation ≤ engine.freeTiles := by
  rcases Config.validate_eq_ok_iff.1 fresh.accepted with ⟨-, ⟨-, fits⟩, -⟩
  rw [Habitat.freeTiles, fresh.bare.occupiedCount_eq_zero, fresh.extent]
  omega

/-! ## Seeding -/

section Rounds

variable [Dice σ]

theorem ends_setup (patience : Nat) (engine : Engine σ) :
    (setup patience).Ends engine
      (fun handles after =>
        ∃ placed habitat,
          Sown Codon.starter engine.toHabitat placed habitat ∧
            after = { engine with toHabitat := habitat } ∧
            handles = placed.reverse ∧
            placed.length = engine.config.initialPopulation.toNat)
      (fun fault after =>
        (fault = .unfinished ∧
          ∃ placed habitat,
            Sown Codon.starter engine.toHabitat placed habitat ∧
              after = { engine with toHabitat := habitat }) ∨
          (fault = (Fault.crowded engine.config.initialPopulation
              engine.freeTiles).raised ∧
            engine.freeTiles < engine.config.initialPopulation ∧
            after = engine)) := by
  rw [setup, Act.ends_bind, Act.ends_get, ends_shared]
  refine (ends_populate Codon.checkProgram_starter _ patience
    engine.toHabitat).mono ?_ ?_
  · intro handles habitat given
    rcases given with ⟨placed, sown, rfl, length⟩
    exact ⟨placed, habitat, sown, rfl, rfl, length⟩
  · intro fault habitat given
    rcases given with ⟨unfinished, placed, sown⟩ | ⟨crowded, few, rfl⟩
    · exact Or.inl ⟨unfinished, placed, habitat, sown, rfl⟩
    · exact Or.inr ⟨crowded, few, rfl⟩

/-! ## Rounds -/

def announced (engine : Engine σ) : Engine σ :=
  { engine with
    journal :=
      .roundBegun engine.round engine.store.handles.length ::
        engine.journal }

def opening (engine : Engine σ) : Scene σ :=
  { engine.announced.toHabitat with tally := .zero }

omit [Dice σ] in
theorem ends_stage {α : Type} {act : Act (Scene σ) α} {value : α}
    {scene : Scene σ} {post : α × Tally → Engine σ → Prop}
    {fail : Fault → Engine σ → Prop}
    (played :
      act.apply { engine.toHabitat with tally := .zero } =
        (.ok value, scene)) :
    (stage act).Ends engine post fail ↔
      post (value, scene.tally)
        { engine with toHabitat := scene.toHabitat } := by
  apply Act.ends_ofStep
  rw [played]
  rfl

inductive Advanced (engine : Engine σ) : Bool → Engine σ → Prop where
  | idle (empty : engine.store.handles = []) (journal : List Notice) :
      Advanced engine false { engine with journal := journal, extinct := true }
  | went {scene : Scene σ} (lively : engine.store.handles ≠ [])
      (played :
        (Scene.playAll engine.store.handles).apply engine.opening =
          (.ok (), scene))
      (inOrder : scene.InOrder) :
      Advanced engine true
        { engine with
          toHabitat := scene.toHabitat
          totals := engine.totals.merge scene.tally
          round := engine.round + 1 }

/-- A round of a simulation that is in order goes through. -/
theorem succeeds_advance (inOrder : engine.toHabitat.InOrder) :
    advance.Succeeds engine (Advanced engine) := by
  have sameNumber : ¬ engine.store.handles.length ≠
      engine.world.occupiedCount := by
    rw [inOrder.consistent.occupiedCount_eq, Store.handles, List.length_map]
    exact not_not_intro rfl
  rw [advance, Act.Succeeds, Act.ends_bind, Act.ends_get]
  dsimp only
  rw [Act.ends_bind, ends_shared, ends_note, if_neg sameNumber]
  by_cases empty : engine.store.handles = []
  · rw [if_pos (List.isEmpty_iff.2 empty)]
    cases extinct : engine.extinct with
    | false =>
        exact Advanced.idle empty _
    | true =>
        exact Advanced.idle empty _
  · have nonempty : ¬ engine.store.handles.isEmpty = true :=
      fun isEmpty => empty (List.isEmpty_iff.1 isEmpty)
    rw [if_neg nonempty]
    have openingInOrder : engine.opening.InOrder := inOrder
    obtain ⟨_, scene, played, sceneInOrder⟩ :=
      (Scene.succeeds_playAll openingInOrder
        engine.store.handles).exists_apply
    rw [Act.ends_bind]
    exact (@ends_stage σ engine.announced _ _ _ _ _ _ played).2
      (Advanced.went empty played sceneInOrder)

end Rounds

end Engine

/-! ## Statistics -/

def FailsOnlyWith (fault : Fault) {α : Type} (check : Except Fault α) :
    Prop :=
  ∀ other, check = .error other → other = fault

theorem FailsOnlyWith.bind {fault : Fault} {α β : Type}
    {check : Except Fault α} {next : α → Except Fault β}
    (first : FailsOnlyWith fault check)
    (rest : ∀ value, FailsOnlyWith fault (next value)) :
    FailsOnlyWith fault (check >>= next) := by
  intro other failed
  cases passed : check with
  | error found =>
      rw [passed] at failed
      cases failed
      exact first other passed
  | ok value =>
      rw [passed] at failed
      exact rest value other failed

private theorem failsOnlyWith_ok {fault : Fault} {α : Type} (value : α) :
    FailsOnlyWith fault (.ok value) := by
  intro other failed
  cases failed

private theorem Figure.failsOnlyWith_text (value : Int) :
    FailsOnlyWith .longFigure (text value) := by
  intro other failed
  unfold text at failed
  split at failed
  · cases failed
  · cases failed
    rfl

private theorem Stats.failsOnlyWith_line (stats : Stats) :
    FailsOnlyWith .longFigure stats.line := by
  unfold line
  iterate 9 refine (Figure.failsOnlyWith_text _).bind fun _ => ?_
  exact failsOnlyWith_ok _

private theorem Census.failsOnlyWith_average (amounts : List Int) :
    FailsOnlyWith .quotientOverflow (average amounts) := by
  intro other failed
  unfold average at failed
  dsimp only at failed
  split at failed
  · cases failed
  · cases failed
    rfl

namespace Engine

variable {engine after : Engine σ}

private theorem failsOnlyWith_stats (engine : Engine σ) :
    FailsOnlyWith .quotientOverflow engine.stats := by
  unfold stats
  iterate 2 refine (Census.failsOnlyWith_average _).bind fun _ => ?_
  exact failsOnlyWith_ok _

inductive Noted (engine : Engine σ) : Except Fault Unit → Engine σ → Prop where
  | silent : Noted engine (.ok ()) engine
  | written (line : String) :
      Noted engine (.ok ())
        { engine with journal := .statistics line :: engine.journal }
  | overflowed {fault : Fault}
      (excess : fault = .quotientOverflow ∨ fault = .longFigure) :
      Noted engine (.error fault) engine

theorem noted_noteStats (engine : Engine σ) :
    Noted engine (noteStats.apply engine).1 (noteStats.apply engine).2 := by
  rw [noteStats, Act.apply_bind, Act.apply_get]
  dsimp only
  split
  · rw [Act.apply_bind, Act.apply_liftM]
    cases computed : engine.stats with
    | error fault =>
        exact .overflowed (Or.inl (failsOnlyWith_stats engine fault computed))
    | ok stats =>
        dsimp only
        rw [Act.apply_bind, Act.apply_liftM]
        cases shown : stats.line with
        | error fault =>
            exact .overflowed
              (Or.inr (stats.failsOnlyWith_line fault shown))
        | ok line =>
            exact .written line
  · exact .silent

theorem Noted.inOrder {result : Except Fault Unit}
    (noted : Noted engine result after)
    (inOrder : engine.toHabitat.InOrder) : after.toHabitat.InOrder := by
  cases noted <;> exact inOrder

theorem Noted.config_eq {result : Except Fault Unit}
    (noted : Noted engine result after) : after.config = engine.config := by
  cases noted <;> rfl

end Engine

end Vivarium
