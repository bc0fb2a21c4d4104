import Mathlib.Algebra.Order.BigOperators.Group.List
import Mathlib.Data.List.MinMax
import Mathlib.Data.Rat.Floor
import Vivarium.Proofs.Barren
import Vivarium.Proofs.Extents
import Vivarium.Run

/-!
# Extinction

A population that neither eats nor reproduces dies out. The energy of all
creatures together is what bounds the run: a round turns some of it into food,
and no food comes back. Without fights each creature lives for as many rounds
as its own energy pays for, whatever it does in them.
-/

namespace Vivarium

variable {σ : Type}

namespace Creature

/-- The number of rounds that a creature can pay for, the last one included
in which it starves. -/
def lifespan (creature : Creature) : Nat :=
  ⌈(creature.energy : ℚ) / creature.metabolism⌉₊

private theorem lifespan_le_iff {creature : Creature} {rounds : Nat} :
    creature.lifespan ≤ rounds ↔
      creature.energy ≤ rounds * creature.metabolism := by
  have charge : (0 : ℚ) < creature.metabolism :=
    Int.cast_pos.2 creature.metabolism_pos
  rw [lifespan, Nat.ceil_le, div_le_iff₀ charge]
  norm_cast

end Creature

namespace Store

variable {store : Store}

private theorem Vital.total_nonneg (vital : store.Vital) :
    0 ≤ store.total Creature.energy := by
  refine List.sum_nonneg ?_
  intro energy member
  rcases List.mem_map.1 member with ⟨creature, listed, rfl⟩
  rcases mem_creatures_iff.1 listed with ⟨index, stored⟩
  have lively := vital index creature stored
  omega

private theorem total_eq_zero_of_deserted (deserted : store.creatures = [])
    (measure : Creature → Int) : store.total measure = 0 := by
  rw [total, deserted]
  rfl

end Store

/-! ## Rounds -/

namespace Scene

variable [Dice σ] {scene : Scene σ} {handle : Handle}
  {handles : List Handle} {genes : List Gene}

private theorem succeeds_playHandle_barren
    (barren : scene.toHabitat.Barren genes)
    (handle : Handle) :
    (playHandle handle).Succeeds scene fun _ after =>
      Visited scene handle after ∧ after.toHabitat.Barren genes := by
  refine (succeeds_playHandle barren.inOrder handle).mono ?_
  intro _ after visited
  exact ⟨visited, (visited.barren barren).1⟩

/-- The first visit of a round already turns some energy into food, and no
later one takes it away. -/
theorem succeeds_playAll_barren (barren : scene.toHabitat.Barren genes)
    {creature : Creature} (found : scene.store.get handle = some creature) :
    (playAll (handle :: handles)).Succeeds scene fun _ after =>
      after.toHabitat.Barren genes ∧
        scene.world.totalFood < after.world.totalFood := by
  obtain ⟨_, first, applied, visited, barrenFirst⟩ :=
    (succeeds_playHandle_barren barren handle).exists_apply
  obtain ⟨-, gained | ⟨missing, -⟩⟩ := visited.barren barren
  · rw [playAll, Act.Succeeds, Act.Ends, Act.apply_forM_cons applied]
    refine Act.succeeds_forM ⟨barrenFirst, gained⟩ ?_
    intro other _ before reached
    rcases reached with ⟨barrenBefore, more⟩
    refine (succeeds_playHandle_barren barrenBefore other).mono ?_
    intro _ after result
    rcases result with ⟨visitedAfter, barrenAfter⟩
    obtain ⟨-, gainedAfter | ⟨-, rfl⟩⟩ := visitedAfter.barren barrenBefore
    · exact ⟨barrenAfter, more.trans gainedAfter⟩
    · exact ⟨barrenAfter, more⟩
  · rw [turn?_eq_none_iff.1 missing] at found
    cases found

/-- A round without fights is one visit for each of the creatures. -/
private theorem ages_playAll (barren : scene.toHabitat.Barren [.attack])
    (distinct : handles.Nodup) :
    (playAll handles).Succeeds scene fun _ after =>
      (∀ handle ∈ handles,
        Ages (scene.store.get handle) (after.store.get handle)) ∧
        (∀ handle, handle ∉ handles →
          after.store.get handle = scene.store.get handle) ∧
        after.tally.births = scene.tally.births ∧
        after.tally.kills = scene.tally.kills := by
  induction handles generalizing scene with
  | nil =>
      exact ⟨nofun, fun _ _ => rfl, rfl, rfl⟩
  | cons head rest inductionHypothesis =>
      rcases List.nodup_cons.1 distinct with ⟨fresh, distinctRest⟩
      obtain ⟨_, first, applied, visited, barrenFirst⟩ :=
        (succeeds_playHandle_barren barren head).exists_apply
      rcases visited.ages barren with ⟨aged, others, births, kills⟩
      rw [playAll, Act.Succeeds, Act.Ends, Act.apply_forM_cons applied]
      refine (inductionHypothesis barrenFirst distinctRest).mono ?_
      intro _ after given
      rcases given with ⟨agedRest, othersRest, birthsRest, killsRest⟩
      refine ⟨?_, ?_, birthsRest.trans births, killsRest.trans kills⟩
      · intro handle listed
        rcases List.mem_cons.1 listed with rfl | later
        · rw [othersRest handle fresh]
          exact aged
        · have different : handle ≠ head := by
            rintro rfl
            exact fresh later
          rw [← others handle different]
          exact agedRest handle later
      · intro handle unlisted
        rw [List.mem_cons, not_or] at unlisted
        rcases unlisted with ⟨different, absent⟩
        rw [othersRest handle absent, others handle different]

end Scene

namespace Engine

open Habitat

variable [Dice σ] {engine middle after : Engine σ} {genes : List Gene}
  {rounds : Nat}

omit [Dice σ] in
private theorem barren_opening (barren : engine.toHabitat.Barren genes) :
    engine.opening.toHabitat.Barren genes :=
  ⟨barren.inOrder, barren.vital, barren.without⟩

theorem Advanced.deserted (advanced : Advanced engine false after) :
    engine.store.creatures = [] ∧ after.store = engine.store ∧
      after.extinct = true := by
  cases advanced with
  | idle empty journal =>
      exact ⟨List.map_eq_nil_iff.1 empty, rfl, rfl⟩

theorem Advanced.lively (advanced : Advanced engine true after) :
    ∃ creature, creature ∈ engine.store.creatures := by
  cases advanced with
  | went lively played inOrder =>
      apply List.exists_mem_of_ne_nil
      intro empty
      simp [Store.handles, empty] at lively

theorem Advanced.barren (barren : engine.toHabitat.Barren genes)
    (advanced : Advanced engine true after) :
    after.toHabitat.Barren genes ∧
      engine.world.totalFood < after.world.totalFood := by
  cases advanced with
  | @went scene lively played sceneInOrder =>
      have opening : engine.opening.toHabitat.Barren genes :=
        barren_opening barren
      cases listed : engine.store.handles with
      | nil =>
          exact absurd listed lively
      | cons handle rest =>
          have member : handle ∈ engine.store.handles := by
            simp [listed]
          rcases barren.inOrder.consistent.mem_handles_iff.1 member with
            ⟨creature, found⟩
          rw [listed] at played
          exact (Scene.succeeds_playAll_barren opening found).of_apply played

/-- A round without fights: every creature pays for it or starves. -/
theorem Advanced.ages (barren : engine.toHabitat.Barren [.attack])
    (advanced : Advanced engine true after) :
    (∀ handle, Scene.Ages (engine.store.get handle)
      (after.store.get handle)) ∧
      after.totals.births = engine.totals.births ∧
      after.totals.kills = engine.totals.kills := by
  cases advanced with
  | @went scene lively played sceneInOrder =>
      have opening := barren_opening barren
      have consistent := barren.inOrder.consistent
      have ended :=
        (Scene.ages_playAll opening consistent.nodup_handles).of_apply played
      rcases ended with ⟨aged, others, births, kills⟩
      refine ⟨?_, ?_, ?_⟩
      · intro handle
        by_cases listed : handle ∈ engine.store.handles
        · exact aged handle listed
        · cases found : engine.store.get handle with
          | none =>
              rw [show scene.store.get handle = none from
                (others handle listed).trans found]
              exact .nobody
          | some creature =>
              exact absurd
                (consistent.mem_handles_iff.2 ⟨creature, found⟩) listed
      · show engine.totals.births + scene.tally.births = _
        rw [births]
        exact Int.add_zero _
      · show engine.totals.kills + scene.tally.kills = _
        rw [kills]
        exact Int.add_zero _

/-- Whoever is alive after a round without fights can pay for one round less
than before. -/
private theorem Advanced.lifespan_le_iff
    (barren : engine.toHabitat.Barren [.attack])
    (advanced : Advanced engine true after) :
    (∀ creature ∈ after.store.creatures, creature.lifespan ≤ rounds) ↔
      ∀ creature ∈ engine.store.creatures,
        creature.lifespan ≤ rounds + 1 := by
  have consistent := barren.inOrder.consistent
  have consistentAfter := (advanced.barren barren).1.inOrder.consistent
  rcases advanced.ages barren with ⟨aged, -⟩
  constructor
  · intro short creature listed
    have found := consistent.get_of_mem_creatures listed
    have charge := creature.metabolism_pos
    have course := aged creature.handle
    rw [found] at course
    rw [Creature.lifespan_le_iff, Nat.cast_succ, Int.add_mul, Int.one_mul]
    generalize left : after.store.get creature.handle = remains at course
    cases course with
    | spent broke =>
        have several : 0 ≤ (rounds : Int) * creature.metabolism :=
          Int.mul_nonneg (Int.natCast_nonneg _) charge.le
        omega
    | @older _ later solvent energy diet =>
        have present : later ∈ after.store.creatures :=
          Store.mem_creatures_iff.2 ⟨_, (Store.get_eq_some_iff.1 left).1⟩
        have enough := Creature.lifespan_le_iff.1 (short later present)
        have sameCharge : later.metabolism = creature.metabolism :=
          congrArg Diet.metabolism diet
        rw [sameCharge] at enough
        omega
  · intro short later listed
    have left := consistentAfter.get_of_mem_creatures listed
    have course := aged later.handle
    rw [left] at course
    generalize found : engine.store.get later.handle = before at course
    cases course with
    | @older creature _ solvent energy diet =>
        have present : creature ∈ engine.store.creatures :=
          Store.mem_creatures_iff.2 ⟨_, (Store.get_eq_some_iff.1 found).1⟩
        have enough := Creature.lifespan_le_iff.1 (short creature present)
        have sameCharge : later.metabolism = creature.metabolism :=
          congrArg Diet.metabolism diet
        rw [Nat.cast_succ, Int.add_mul, Int.one_mul] at enough
        rw [Creature.lifespan_le_iff, sameCharge]
        omega

/-! ## Runs -/

/-- A run to the end: so many rounds are completed, then one finds nobody. -/
inductive Lasts : Engine σ → Nat → Engine σ → Prop where
  | ended {engine after : Engine σ}
      (ran : advance.apply engine = (.ok false, after)) :
      Lasts engine 0 after
  | round {engine middle after : Engine σ} {rounds : Nat}
      (ran : advance.apply engine = (.ok true, middle))
      (later : Lasts middle rounds after) :
      Lasts engine (rounds + 1) after

omit [Dice σ] in
private theorem apply_noteStats_silent
    (silent : engine.config.statsInterval = 0) :
    noteStats.apply engine = (.ok (), engine) := by
  have quiet : noteStats.Succeeds engine fun _ after => after = engine := by
    rw [noteStats, Act.Succeeds, Act.ends_bind, Act.ends_get]
    simp [silent]
  rcases quiet.exists_apply with ⟨_, after, applied, rfl⟩
  exact applied

theorem Lasts.reachable (lasts : Lasts engine rounds after)
    (reachable : Reachable engine) : Reachable after := by
  induction lasts with
  | ended ran =>
      exact .step reachable (.advanced ran)
  | round ran later inductionHypothesis =>
      exact inductionHypothesis (.step reachable (.advanced ran))

theorem Lasts.apply_runRounds (lasts : Lasts engine rounds after)
    (reachable : Reachable engine)
    (silent : engine.config.statsInterval = 0) {limit : Nat}
    (enough : rounds < limit) (completed : Nat) :
    (runRounds limit completed).apply engine =
      (.ok (completed + rounds), after) := by
  induction lasts generalizing limit completed with
  | ended ran =>
      cases limit with
      | zero =>
          cases enough
      | succ limit =>
          rw [runRounds, Act.apply_bind, ran]
          rfl
  | @round engine middle after rounds ran later inductionHypothesis =>
      cases limit with
      | zero =>
          cases enough
      | succ limit =>
          have step : Step engine middle := .advanced ran
          have sameConfig := (step.outcome reachable.inOrder).config_eq
          rw [← sameConfig] at silent
          have rest := inductionHypothesis (.step reachable step) silent
            (Nat.lt_of_succ_lt_succ enough) (completed + 1)
          rw [runRounds, Act.apply_bind, ran]
          dsimp only
          rw [if_pos rfl, Act.apply_bind, apply_noteStats_silent silent]
          dsimp only
          rw [rest]
          congr 2
          omega

theorem Lasts.apply_run (lasts : Lasts engine rounds after)
    (reachable : Reachable engine)
    (silent : engine.config.statsInterval = 0)
    (unbounded : engine.config.maxRounds = none) {patience : Nat}
    (enough : rounds < patience) :
    (run patience none).apply engine = (.ok rounds, after) := by
  have ran := lasts.apply_runRounds reachable silent enough 0
  rw [Nat.zero_add] at ran
  have given : (run patience none).Succeeds engine
      fun completed last => completed = rounds ∧ last = after := by
    rw [run, Act.Succeeds, Act.ends_bind, Act.ends_get, unbounded]
    dsimp only [HOrElse.hOrElse, OrElse.orElse, Option.orElse]
    rw [Act.ends_bind, Act.Ends, ran]
    dsimp only
    rw [if_neg enough.ne]
    exact ⟨rfl, rfl⟩
  obtain ⟨_, _, applied, rfl, rfl⟩ := given.exists_apply
  exact applied

/-- Energy is what the rounds of a barren population are paid with. -/
theorem exists_lasts (barren : engine.toHabitat.Barren genes) :
    ∃ rounds after, Lasts engine rounds after ∧
      (rounds : Int) ≤ engine.store.total Creature.energy := by
  generalize wallet : (engine.store.total Creature.energy).toNat = budget
  induction budget using Nat.strong_induction_on generalizing engine with
  | _ budget inductionHypothesis =>
      have nonneg := barren.vital.total_nonneg
      obtain ⟨answer, middle, ran, advanced⟩ :=
        (succeeds_advance barren.inOrder).exists_apply
      cases answer with
      | false =>
          exact ⟨0, middle, .ended ran, nonneg⟩
      | true =>
          rcases advanced.barren barren with ⟨barrenMiddle, gained⟩
          have conserved := advanced.wealth_eq barren.inOrder
          have nonnegMiddle := barrenMiddle.vital.total_nonneg
          unfold Habitat.wealth at conserved
          obtain ⟨rounds, after, lasts, few⟩ :=
            inductionHypothesis _ (by omega) barrenMiddle rfl
          refine ⟨rounds + 1, after, .round ran lasts, ?_⟩
          omega

theorem Lasts.wealth_eq (lasts : Lasts engine rounds after)
    (reachable : Reachable engine) : after.wealth = engine.wealth := by
  induction lasts with
  | ended ran =>
      have same := wealth_advance reachable.inOrder
      rw [ran] at same
      exact same
  | round ran later inductionHypothesis =>
      have same := wealth_advance reachable.inOrder
      rw [ran] at same
      exact (inductionHypothesis (.step reachable (.advanced ran))).trans same

theorem Lasts.deserted (lasts : Lasts engine rounds after)
    (reachable : Reachable engine) :
    after.store.creatures = [] ∧ after.extinct = true := by
  induction lasts with
  | ended ran =>
      have advanced := (succeeds_advance reachable.inOrder).of_apply ran
      rcases Advanced.deserted advanced with ⟨deserted, same, extinct⟩
      rw [same]
      exact ⟨deserted, extinct⟩
  | round ran later inductionHypothesis =>
      exact inductionHypothesis (.step reachable (.advanced ran))

/-- Without fights a run lasts as long as the longest life. -/
theorem Lasts.le_iff (lasts : Lasts engine rounds after)
    (barren : engine.toHabitat.Barren [.attack]) {bound : Nat} :
    rounds ≤ bound ↔
      ∀ creature ∈ engine.store.creatures, creature.lifespan ≤ bound := by
  induction lasts generalizing bound with
  | ended ran =>
      have advanced := (succeeds_advance barren.inOrder).of_apply ran
      rcases Advanced.deserted advanced with ⟨deserted, -⟩
      simp [deserted]
  | @round engine middle after rounds ran later inductionHypothesis =>
      have advanced : Advanced engine true middle :=
        (succeeds_advance barren.inOrder).of_apply ran
      cases bound with
      | succ bound =>
          rw [Nat.succ_le_succ_iff,
            inductionHypothesis (advanced.barren barren).1]
          exact advanced.lifespan_le_iff barren
      | zero =>
          rcases Advanced.lively advanced with ⟨creature, listed⟩
          rcases Store.mem_creatures_iff.1 listed with ⟨index, stored⟩
          have lively := barren.vital index creature stored
          constructor
          · intro impossible
            cases impossible
          · intro short
            have spent := Creature.lifespan_le_iff.1 (short creature listed)
            omega

/-- Without fights the only way to die is to starve. -/
theorem Lasts.starvations_eq (lasts : Lasts engine rounds after)
    (barren : engine.toHabitat.Barren [.attack]) :
    after.totals.starvations =
      engine.totals.starvations + engine.store.creatures.length := by
  induction lasts with
  | ended ran =>
      have advanced := (succeeds_advance barren.inOrder).of_apply ran
      rcases advanced with ⟨empty, journal⟩
      have deserted := List.map_eq_nil_iff.1 empty
      simp [deserted]
  | @round engine middle after rounds ran later inductionHypothesis =>
      have advanced : Advanced engine true middle :=
        (succeeds_advance barren.inOrder).of_apply ran
      have later := inductionHypothesis (advanced.barren barren).1
      rcases advanced.ledger barren.inOrder barren.vital with ⟨-, ledger, -⟩
      rcases advanced.ages barren with ⟨-, births, kills⟩
      unfold population Store.liveCount Tally.growth at ledger
      omega

/-- How a population comes to its end, whoever throws the dice. -/
structure DiesOut (engine : Engine σ) (rounds : Nat) (after : Engine σ) :
    Prop where
  ends : ∀ patience, rounds < patience →
    (run patience none).apply engine = (.ok rounds, after)
  prompt : (rounds : Int) ≤ engine.store.total Creature.energy
  deserted : after.store.creatures = []
  unoccupied : ∀ position tile, after.world.tile? position = some tile →
    tile.occupant = none
  extinct : after.extinct = true
  food : after.world.totalFood =
    engine.world.totalFood + engine.store.total Creature.energy

/-- A population that cannot feed or breed dies out: each round burns some of
its energy for good. If it does not fight either, the one that can pay for the
most rounds decides how long that takes, and all of them starve. -/
theorem barren_dies_out (reachable : Reachable engine)
    (unbounded : engine.config.maxRounds = none)
    (silent : engine.config.statsInterval = 0)
    (lively : ∀ creature ∈ engine.store.creatures, 1 ≤ creature.energy)
    (barren : ∀ creature ∈ engine.store.creatures,
      creature.Without [.eat, .reproduce]) :
    ∃ rounds after, DiesOut engine rounds after ∧
      ((∀ creature ∈ engine.store.creatures, creature.Without [.attack]) →
        rounds =
            (engine.store.creatures.map Creature.lifespan).foldr max 0 ∧
          after.totals.starvations =
            engine.totals.starvations + engine.store.creatures.length) := by
  have fasting : engine.toHabitat.Barren [] := by
    refine ⟨reachable.inOrder, ?_, ?_⟩
    · intro index creature stored
      exact lively creature (Store.mem_creatures_iff.2 ⟨index, stored⟩)
    · intro index creature stored
      exact barren creature (Store.mem_creatures_iff.2 ⟨index, stored⟩)
  obtain ⟨rounds, after, lasts, few⟩ := exists_lasts fasting
  rcases lasts.deserted reachable with ⟨deserted, extinct⟩
  refine ⟨rounds, after, ⟨?_, few, deserted, ?_, extinct, ?_⟩, ?_⟩
  · intro patience enough
    exact lasts.apply_run reachable silent unbounded enough
  · intro position tile found
    by_contra occupied
    rcases Option.ne_none_iff_exists'.1 occupied with ⟨handle, mark⟩
    obtain ⟨creature, present, -⟩ :=
      (reachable_matched (lasts.reachable reachable)).resolved found mark
    have listed : creature ∈ after.store.creatures :=
      Store.mem_creatures_iff.2 ⟨_, (Store.get_eq_some_iff.1 present).1⟩
    simp [deserted] at listed
  · have conserved := lasts.wealth_eq reachable
    unfold Habitat.wealth at conserved
    rw [Store.total_eq_zero_of_deserted deserted] at conserved
    omega
  · intro quiet
    have peaceful : engine.toHabitat.Barren [.attack] := by
      refine ⟨fasting.inOrder, fasting.vital, ?_⟩
      intro index creature stored gene member
      have listed := Store.mem_creatures_iff.2 ⟨index, stored⟩
      have split : gene ∈ [.eat, .reproduce] ++ [.attack] := member
      rcases List.mem_append.1 split with burdened | violent
      · exact barren creature listed gene burdened
      · exact quiet creature listed gene violent
    refine ⟨?_, lasts.starvations_eq peaceful⟩
    apply Nat.le_antisymm
    · refine (lasts.le_iff peaceful).2 ?_
      intro creature listed
      exact List.le_max_of_le (List.mem_map_of_mem listed) le_rfl
    · refine List.max_le_of_forall_le _ _ ?_
      intro span member
      rcases List.mem_map.1 member with ⟨creature, listed, rfl⟩
      exact (lasts.le_iff peaceful).1 le_rfl creature listed

/-- Two vagrants, with energy for three rounds and for two. -/
theorem vagrants_die_out :
    ∃ engine after : Engine Script, DiesOut engine 3 after ∧
      after.totals.starvations = 2 := by
  let vagrant (column : Nat) (energy : Int) : Creature :=
    ⟨⟨column, column⟩, ⟨column, 0⟩, energy, .midpoint,
      [.gene .move], .herbivore⟩
  have figures :
      ((couple (⟨#[0], 0⟩ : Script) ([.gene .move], 3)
          ([.gene .move], 2)).map fun engine =>
        (engine.config.maxRounds, engine.config.statsInterval,
          engine.totals.starvations, engine.store.creatures)) =
        some (none, 0, 0, [vagrant 0 3, vagrant 1 2]) := by
    decide +kernel
  rcases Option.map_eq_some_iff.1 figures with ⟨engine, paired, told⟩
  rcases Prod.mk.inj told with ⟨unbounded, told⟩
  rcases Prod.mk.inj told with ⟨silent, told⟩
  rcases Prod.mk.inj told with ⟨starvations, listed⟩
  have reachable := reachable_of_couple paired (by decide) (by decide)
  obtain ⟨rounds, after, diesOut, peaceful⟩ :=
    barren_dies_out reachable unbounded silent
      (by simp [listed, vagrant])
      (by simp [listed, vagrant, Creature.Without])
  rcases peaceful (by simp [listed, vagrant, Creature.Without]) with
    ⟨rfl, starved⟩
  refine ⟨engine, after, ?_, ?_⟩
  · convert diesOut
    rw [listed]
    simp [vagrant, Creature.lifespan, Creature.metabolism, Diet.metabolism]
  · rw [starved, starvations, listed]
    rfl

end Engine

end Vivarium
