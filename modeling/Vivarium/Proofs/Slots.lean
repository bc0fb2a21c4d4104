import Vivarium.Proofs.Extents

/-!
# Slots

A slot is vacant and waits on the free list, or it belongs to a creature that
is alive, be it stored or out for its turn. A slot is added only when none is
vacant. So there are as many slots as creatures have ever been alive at one
moment, which is no more than there are tiles.
-/

namespace Vivarium

variable {σ : Type}

/-! ## Vacant slots and living creatures -/

namespace Store

/-- The number of living creatures, the one that takes its turn included. -/
def living (store : Store) : Nat :=
  store.slots.countP fun held => held ≠ .vacant

variable {store : Store}

private theorem living_eq_countP (store : Store) :
    store.living =
      (List.range store.count).countP fun index =>
        store.slot index ≠ .vacant := by
  rw [living, ← Array.countP_toList, toList_slots, List.countP_map]
  rfl

/-- Between two turns all living creatures are stored. -/
theorem liveCount_eq_living
    (nobodyOut : ∀ index handle, store.slot index ≠ .checkedOut handle) :
    store.liveCount = store.living := by
  rw [living_eq_countP, liveCount, creatures_eq,
    List.length_filterMap_eq_countP]
  refine List.countP_congr ?_
  intro index _
  cases held : store.slot index with
  | vacant =>
      simp [Slot.creature?]
  | stored creature =>
      simp [Slot.creature?]
  | checkedOut handle =>
      exact absurd held (nobodyOut index handle)

end Store

namespace Consistent

variable {world : World} {store : Store} {issued index : Nat}
  {out : Option Creature}

private theorem residents_eq_none_iff
    (consistent : Consistent world store issued out) :
    store.residents out index = none ↔ store.slot index = .vacant := by
  by_cases isOut : ∃ actor ∈ out, actor.handle.slot = index
  · rcases isOut with ⟨actor, rfl, rfl⟩
    rw [Store.residents_self, consistent.slot_actor]
    simp
  · have inside : store.residents out index =
        (store.slot index).creature? := by
      cases out with
      | none =>
          rfl
      | some actor =>
          exact Store.residents_of_ne fun same => isOut ⟨actor, rfl, same.symm⟩
    rw [inside]
    cases held : store.slot index with
    | vacant =>
        simp [Slot.creature?]
    | stored creature =>
        simp [Slot.creature?]
    | checkedOut handle =>
        rcases consistent.away.1 held with ⟨named, placed⟩
        rcases Option.map_eq_some_iff.1 named with ⟨actor, given, rfl⟩
        exact absurd ⟨actor, given, placed⟩ isOut

private theorem mem_free_iff (consistent : Consistent world store issued out) :
    index ∈ store.free ↔
      index < store.count ∧ store.slot index = .vacant := by
  rw [consistent.settled.mem_free, consistent.residents_eq_none_iff]

/-- No slot is lost: what is not vacant is somebody's. -/
theorem count_eq (consistent : Consistent world store issued out) :
    store.count = store.living + store.freeCount := by
  have waiting :
      store.free.Perm
        ((List.range store.count).filter fun index =>
          store.slot index = .vacant) := by
    refine (List.perm_ext_iff_of_nodup consistent.settled.nodup
      (List.nodup_range.filter _)).2 ?_
    intro index
    rw [consistent.mem_free_iff, List.mem_filter, List.mem_range,
      decide_eq_true_iff]
  have split :=
    List.length_eq_countP_add_countP
      (fun index => decide (store.slot index = .vacant))
      (l := List.range store.count)
  rw [List.length_range, List.countP_eq_length_filter,
    ← waiting.length_eq] at split
  have rest : store.living =
      (List.range store.count).countP fun index =>
        !decide (decide (store.slot index = .vacant) = true) := by
    rw [Store.living_eq_countP]
    simp
  rw [rest, Store.freeCount, Nat.add_comm]
  simpa using split

/-- There are no more living creatures than tiles. -/
theorem living_le_area (consistent : Consistent world store issued out) :
    (store.living : Int) ≤ world.extent.area := by
  have between : ∀ {store : Store}, Consistent world store issued none →
      store.living ≤ world.tiles.size := by
    intro store consistent
    rw [← Store.liveCount_eq_living consistent.slot_ne_checkedOut,
      ← consistent.occupiedCount_eq]
    exact Array.countP_le_size
  rw [World.area_extent, Int.ofNat_le]
  cases out with
  | none =>
      exact between consistent
  | some actor =>
      -- the creature that is out takes the same slot when it comes back
      have counted := consistent.count_eq
      have back := consistent.put.count_eq
      rw [Store.count_set] at back
      have same : (store.set actor.handle actor).freeCount =
          store.freeCount := rfl
      have bounded := between consistent.put
      omega

end Consistent

/-! ## The number of slots -/

namespace Store

/-- Through some moments a store has grown no more than it had to: if it has
grown at all, all of its slots were needed at one of them. -/
structure Grows (area : Int) (before : Store) (moments : List Store)
    (after : Store) : Prop where
  grown : before.count ≤ after.count
  within : ∀ moment ∈ moments, moment.count ≤ after.count
  full : before.count < after.count →
    (after.count : Int) ≤ area ∧
      ∃ moment ∈ moments, moment.living = after.count

variable {area : Int} {before middle after : Store}
  {moments later : List Store}

theorem Grows.refl (area : Int) (store : Store) :
    Grows area store [] store where
  grown := Nat.le_refl _
  within := by simp
  full grown := absurd grown (Nat.lt_irrefl _)

theorem Grows.single (same : after.count = before.count) :
    Grows area before [after] after where
  grown := Nat.le_of_eq same.symm
  within := by simp
  full grown := by omega

theorem Grows.trans (first : Grows area before moments middle)
    (second : Grows area middle later after) :
    Grows area before (moments ++ later) after where
  grown := Nat.le_trans first.grown second.grown
  within := by
    intro moment member
    rcases List.mem_append.1 member with early | late
    · exact Nat.le_trans (first.within moment early) second.grown
    · exact second.within moment late
  full grown := by
    by_cases more : middle.count < after.count
    · rcases second.full more with ⟨fits, moment, member, full⟩
      exact ⟨fits, moment, List.mem_append_right moments member, full⟩
    · have same : after.count = middle.count :=
        Nat.le_antisymm (Nat.not_lt.1 more) second.grown
      rw [same] at grown ⊢
      rcases first.full grown with ⟨fits, moment, member, full⟩
      exact ⟨fits, moment, List.mem_append_left later member, full⟩

private theorem composable_grows
    (area : Int) : Act.Composable (Grows area) where
  refl := Grows.refl area
  trans := Grows.trans

private theorem reserves_spawn (store : Store) (issued : Nat)
    (creature : Creature) :
    Roster.Reserves store.free store.count
      (store.allocate issued).1.slot
      ((store.allocate issued).2.1.set creature.handle creature).free
      ((store.allocate issued).2.1.set creature.handle creature).count := by
  rw [count_set]
  exact reserves_allocate store issued

/-- A slot that is reserved for a newcomer is a vacant one, or else there was
none. -/
private theorem Grows.of_reserves {world : World} {issued index : Nat}
    {out : Option Creature} (consistent : Consistent world after issued out)
    (reserves :
      Roster.Reserves before.free before.count index after.free
        after.count) :
    Grows world.extent.area before [after] after := by
  rcases reserves with ⟨-, same⟩ | ⟨-, nothing, -, more⟩
  · exact Grows.single same
  · have all : after.count = after.living := by
      rw [consistent.count_eq, freeCount, nothing]
      rfl
    refine ⟨by omega, by simp, fun _ =>
      ⟨?_, after, List.mem_singleton_self _, all.symm⟩⟩
    rw [all]
    exact consistent.living_le_area

end Store

/-! ## The moments of a turn -/

namespace Turn

variable [Dice σ] {turn after : Turn σ} {area : Int}

/-- The store when a turn begins, after each gene and after the upkeep. -/
def moments (turn : Turn σ) : List Store :=
  turn.store ::
    (turn.genes.map fun (codon, before) =>
      ((carryOut codon).apply before).2.store) ++
    [(play.apply turn).2.store]

theorem Effect.grows (inOrder : turn.InOrder) {gene : Gene}
    (effect : Effect turn gene after) :
    Store.Grows turn.world.extent.area turn.store [after.store]
      after.store := by
  have inOrderAfter := effect.inOrder inOrder
  have sameExtent := effect.extent_eq
  cases effect with
  | wounded occupied known strong =>
      exact Store.Grows.single (Store.count_set _ _ _)
  | killed occupied known weak =>
      exact Store.Grows.single (Store.count_release _ _)
  | @bred _ _ child able unoccupied mutated inherits born =>
      rw [← sameExtent]
      exact Store.Grows.of_reserves inOrderAfter.consistent
        (Store.reserves_spawn turn.store turn.issued child)
  | _ =>
      exact Store.Grows.single rfl

omit [Dice σ] in
theorem Upkeep.count_eq {life : Life} (upkeep : Upkeep turn life after) :
    after.store.count = turn.store.count := by
  cases upkeep with
  | paid solvent =>
      rfl
  | starved broke =>
      exact Store.count_release _ _

/-- While a program runs. -/
private theorem grows_runProgram (inOrder : turn.InOrder)
    (ran : runProgram.apply turn = (.ok (), after)) :
    Store.Grows turn.world.extent.area turn.store
      ((Act.trace carryOut turn.actor.program turn).map
        fun (codon, before) => ((carryOut codon).apply before).2.store)
      after.store := by
  have step : ∀ codon ∈ turn.actor.program, ∀ before : Turn σ,
      turn.Follows before ∧ before.world.extent = turn.world.extent →
        (carryOut codon).Succeeds before fun _ later =>
          (turn.Follows later ∧ later.world.extent = turn.world.extent) ∧
            Store.Grows turn.world.extent.area before.store
              [((carryOut codon).apply before).2.store] later.store := by
    intro codon member before given
    rcases given with ⟨follows, sameExtent⟩
    rcases inOrder.viable.exists_meaning member with ⟨gene, means⟩
    obtain ⟨_, later, applied, effect⟩ :=
      (succeeds_carryOut follows.inOrder means).exists_apply
    refine Act.succeeds_of_apply applied ⟨⟨follows.step effect, ?_⟩, ?_⟩
    · exact effect.extent_eq.trans sameExtent
    · rw [applied, ← sameExtent]
      exact effect.grows follows.inOrder
  have ended :=
    Act.succeeds_forM_recorded (Store.composable_grows _) _
      (fun later : Turn σ => later.store)
      (fun codon before => [((carryOut codon).apply before).2.store])
      ⟨inOrder.follows_self, rfl⟩ step
  rw [Act.Succeeds, ← ends_runProgram inOrder] at ended
  rw [List.map_eq_flatMap]
  exact (Act.Ends.of_apply ended ran).2

theorem Played.grows {life : Life} (inOrder : turn.InOrder)
    (went : play.apply turn = (.ok life, after))
    (played : Played turn life after) :
    Store.Grows turn.world.extent.area turn.store turn.moments
      after.store := by
  have begun : Store.Grows turn.world.extent.area turn.store [turn.store]
      turn.store := Store.Grows.single rfl
  rw [moments, went, genes]
  cases played with
  | faded spent =>
      rw [if_pos spent]
      exact begun.trans begun
  | ended lively ran follows upkeep =>
      rw [if_neg lively]
      exact (begun.trans (grows_runProgram inOrder ran)).trans
        (Store.Grows.single upkeep.count_eq)

end Turn

/-! ## The moments of a round -/

namespace Scene

variable [Dice σ] {scene after : Scene σ} {handle : Handle}

def moments (scene : Scene σ) (handle : Handle) : List Store :=
  (scene.turn? handle).elim [] Turn.moments ++
    [((playHandle handle).apply scene).2.store]

theorem Visited.grows (inOrder : scene.InOrder)
    (applied : (playHandle handle).apply scene = (.ok (), after))
    (visited : Visited scene handle after) :
    Store.Grows scene.world.extent.area scene.store (scene.moments handle)
      after.store := by
  have taken : ∀ {turn : Turn σ}, scene.turn? handle = some turn →
      turn.InOrder ∧ turn.world.extent = scene.world.extent ∧
        Store.Grows scene.world.extent.area scene.store [] turn.store := by
    intro turn opened
    rcases inOrder.opens opened with ⟨turnInOrder, -, -⟩
    rcases turn?_eq_some_iff.1 opened with ⟨actor, found, rfl⟩
    refine ⟨turnInOrder, rfl, ?_⟩
    have same := Store.count_take scene.store handle
    exact ⟨Nat.le_of_eq same.symm, by simp,
      fun grown => absurd grown (Nat.not_lt.2 (Nat.le_of_eq same))⟩
  rw [moments, applied]
  cases visited with
  | gone missing =>
      rw [missing]
      exact Store.Grows.single rfl
  | survived opened went played =>
      rcases taken opened with ⟨turnInOrder, sameExtent, begun⟩
      have middle := played.grows turnInOrder went
      rw [sameExtent] at middle
      rw [opened]
      exact (begun.trans middle).trans
        (Store.Grows.single (Store.count_set _ _ _))
  | starved opened went played lively =>
      rcases taken opened with ⟨turnInOrder, sameExtent, begun⟩
      have middle := played.grows turnInOrder went
      rw [sameExtent] at middle
      rw [opened]
      exact (begun.trans middle).trans (Store.Grows.single rfl)
  | faded opened went spent =>
      rcases taken opened with ⟨turnInOrder, sameExtent, begun⟩
      have middle := (Turn.Played.faded spent).grows turnInOrder went
      rw [sameExtent] at middle
      rw [opened]
      exact (begun.trans middle).trans
        (Store.Grows.single (Store.count_release _ _))

end Scene

namespace Habitat

variable [Dice σ] {habitat after : Habitat σ}

/-- The store each time that a seeded creature has been placed. -/
def sowings (program : List Codon) (patience : Nat) :
    (count : Nat) → Habitat σ → List Store
  | 0, _ => []
  | count + 1, habitat =>
    match (placeOne program patience).apply habitat with
    | (.ok _, after) => after.store :: sowings program patience count after
    | (.error _, _) => []

omit [Dice σ] in
private theorem InOrder.grows_joined (inOrder : habitat.InOrder)
    {creature : Creature} (named : creature.handle = habitat.nextHandle)
    (onGrid : habitat.world.contains creature.position = true)
    (unoccupied : habitat.world.occupant? creature.position = none)
    (viable : creature.Viable) :
    Store.Grows habitat.world.extent.area habitat.store
      [(habitat.joined creature).store] (habitat.joined creature).store := by
  have consistent :=
    (inOrder.joined named onGrid unoccupied viable).consistent
  have sameExtent : (habitat.joined creature).world.extent =
      habitat.world.extent := World.extent_setOccupant _ _ _
  rw [← sameExtent]
  exact Store.Grows.of_reserves consistent
    (Store.reserves_spawn habitat.store habitat.issued creature)

/-- A seeding records what the arrivals record, one after the other. -/
private theorem ends_placeMany_recorded {V : Type}
    {relates : V → List Store → V → Prop}
    (composable : Act.Composable relates) (kept : Habitat σ → Prop)
    (view : Habitat σ → V) {program : List Codon}
    (admitted : Codon.checkProgram program = .ok ())
    (step : ∀ {before : Habitat σ} {position : Position} (dice : σ),
      kept before → before.world.contains position = true →
        before.world.occupant? position = none →
        let after := ({ before with dice } : Habitat σ).joined
          (Creature.born before.nextHandle position program)
        kept after ∧ relates (view before) [after.store] (view after))
    (apart : ∀ (before : Habitat σ) (dice : σ) (journal : List Notice),
      view { before with dice, journal } = view before)
    (patience count : Nat) (start : kept habitat) (placed : List Handle) :
    (placeMany program patience count placed).Ends habitat
      (fun _ after =>
        relates (view habitat) (sowings program patience count habitat)
          (view after))
      (fun _ after =>
        relates (view habitat) (sowings program patience count habitat)
          (view after)) := by
  induction count generalizing habitat placed with
  | zero =>
      exact composable.refl _
  | succ count inductionHypothesis =>
      have first := ends_placeOne admitted patience habitat
      rw [placeMany, sowings, Act.ends_bind]
      rcases applied : (placeOne program patience).apply habitat with
        ⟨fault | handle, middle⟩
      · rw [Act.Ends, applied] at first ⊢
        rcases first with ⟨-, dice, rfl⟩
        dsimp only
        rw [apart habitat dice habitat.journal]
        exact composable.refl _
      · rw [Act.Ends, applied] at first ⊢
        rcases first with ⟨position, dice, onGrid, unoccupied, -, rfl⟩
        obtain ⟨keptAfter, arrived⟩ := step dice start onGrid unoccupied
        exact (inductionHypothesis keptAfter (handle :: placed)).mono
          (fun _ _ later => composable.trans arrived later)
          (fun _ _ later => composable.trans arrived later)

end Habitat

namespace Engine

open Habitat

variable [Dice σ] {engine after : Engine σ}

def moments (engine : Engine σ) : List Store :=
  (engine.opening.visits engine.store.handles).flatMap fun (handle, scene) =>
    scene.moments handle

def sowings (engine : Engine σ) (patience : Nat) : List Store :=
  if engine.freeTiles < engine.config.initialPopulation then []
  else
    Habitat.sowings Codon.starter patience
      engine.config.initialPopulation.toNat engine.toHabitat

private theorem grows_advance (inOrder : engine.toHabitat.InOrder)
    {result : Except Fault Bool}
    (ran : advance.apply engine = (result, after)) :
    Store.Grows engine.world.extent.area engine.store engine.moments
      after.store := by
  have openingInOrder : engine.opening.InOrder := inOrder
  have step : ∀ handle ∈ engine.store.handles, ∀ before : Scene σ,
      before.InOrder ∧ before.world.extent = engine.world.extent →
        (Scene.playHandle handle).Succeeds before fun _ later =>
          (later.InOrder ∧ later.world.extent = engine.world.extent) ∧
            Store.Grows engine.world.extent.area before.store
              (before.moments handle) later.store := by
    intro handle _ before given
    rcases given with ⟨beforeInOrder, sameExtent⟩
    obtain ⟨_, later, applied, visited⟩ :=
      (Scene.succeeds_playHandle beforeInOrder handle).exists_apply
    refine Act.succeeds_of_apply applied
      ⟨⟨visited.inOrder beforeInOrder, ?_⟩, ?_⟩
    · exact (visited.extent_eq beforeInOrder).trans sameExtent
    · rw [← sameExtent]
      exact visited.grows beforeInOrder applied
  have ended :=
    Act.succeeds_forM_recorded (Store.composable_grows _) _
      (fun later : Scene σ => later.store)
      (fun handle before => before.moments handle)
      ⟨openingInOrder, rfl⟩ step
  obtain ⟨answer, last, applied, advanced⟩ :=
    (succeeds_advance inOrder).exists_apply
  rw [applied] at ran
  cases ran
  cases advanced with
  | idle empty journal =>
      rw [moments, empty]
      exact Store.Grows.refl _ _
  | went lively played sceneInOrder =>
      exact (ended.of_apply played).2

/-- A seeding, whether it comes to its end or not, records its arrivals. -/
theorem ends_setup_recorded {V : Type} {relates : V → List Store → V → Prop}
    (composable : Act.Composable relates) (kept : Habitat σ → Prop)
    (view : Habitat σ → V)
    (step : ∀ {before : Habitat σ} {position : Position} (dice : σ),
      kept before → before.world.contains position = true →
        before.world.occupant? position = none →
        let after := ({ before with dice } : Habitat σ).joined
          (Creature.born before.nextHandle position Codon.starter)
        kept after ∧ relates (view before) [after.store] (view after))
    (apart : ∀ (before : Habitat σ) (dice : σ) (journal : List Notice),
      view { before with dice, journal } = view before)
    (patience : Nat) (start : kept engine.toHabitat) :
    (setup patience).Ends engine
      (fun _ after =>
        relates (view engine.toHabitat) (engine.sowings patience)
          (view after.toHabitat))
      (fun _ after =>
        relates (view engine.toHabitat) (engine.sowings patience)
          (view after.toHabitat)) := by
  rw [setup, Act.ends_bind, Act.ends_get, ends_shared, populate,
    Act.ends_bind, Act.ends_get, sowings]
  by_cases few : engine.freeTiles < engine.config.initialPopulation
  · rw [if_pos few, if_pos few]
    exact composable.refl _
  · rw [if_neg few, if_neg few, Act.ends_bind]
    refine (ends_placeMany_recorded composable kept view
      Codon.checkProgram_starter step apart patience
      engine.config.initialPopulation.toNat start []).mono ?_
      (fun _ _ recorded => recorded)
    intro placed after recorded
    rw [Act.ends_bind, ends_note, Act.ends_pure]
    dsimp only
    rw [apart after after.dice]
    exact recorded

private theorem grows_setup
    (inOrder : engine.toHabitat.InOrder) (patience : Nat) :
    (setup patience).Ends engine
      (fun _ after =>
        Store.Grows engine.world.extent.area engine.store
          (engine.sowings patience) after.store)
      (fun _ after =>
        Store.Grows engine.world.extent.area engine.store
          (engine.sowings patience) after.store) := by
  refine ends_setup_recorded (Store.composable_grows _)
    (fun later : Habitat σ =>
      later.InOrder ∧ later.world.extent = engine.world.extent)
    (fun later : Habitat σ => later.store) ?_ (fun _ _ _ => rfl) patience
    ⟨inOrder, rfl⟩
  intro before position dice given onGrid unoccupied
  rcases given with ⟨beforeInOrder, sameExtent⟩
  have rolled : ({ before with dice } : Habitat σ).InOrder := beforeInOrder
  have viable : (Creature.born before.nextHandle position
      Codon.starter).Viable :=
    Creature.viable_born Codon.checkProgram_starter
  refine ⟨⟨rolled.joined rfl onGrid unoccupied viable, ?_⟩, ?_⟩
  · exact (World.extent_setOccupant _ _ _).trans sameExtent
  · rw [← sameExtent]
    exact rolled.grows_joined rfl onGrid unoccupied viable

/-! ## Whole runs -/

/-- A run up to now, with the store at each of its moments. -/
inductive Chronicle : Engine σ → List Store → Prop where
  | made {config : Config} {seed : Option Int} {dice : σ} {issued : Nat}
      {runId : String} {engine : Engine σ}
      (made : make config seed dice issued runId = .ok engine) :
      Chronicle engine [engine.store]
  | seeded {before after : Engine σ} {moments : List Store}
      {patience : Nat} {result : Except Fault (List Handle)}
      (earlier : Chronicle before moments)
      (ran : (setup patience).apply before = (result, after)) :
      Chronicle after (moments ++ before.sowings patience)
  | placed {before after : Engine σ} {moments : List Store}
      {position : Position} {program : List Codon} {energy : Int}
      {sensors : Sensors} {tile : Tile} {result : Except Fault Handle}
      (earlier : Chronicle before moments)
      (sized : 1 ≤ program.length ∧ program.length ≤ Gene.maxProgram)
      (native : ∀ codon ∈ program, codon.isGene = true)
      (enough : 0 ≤ energy) (bytes : sensors.InRange)
      (found : before.world.tile? position = some tile)
      (vacant : tile.occupant = none)
      (ran :
        (shared (place position program energy sensors)).apply before =
          (result, after)) :
      Chronicle after (moments ++ [after.store])
  | advanced {before after : Engine σ} {moments : List Store}
      {result : Except Fault Bool} (earlier : Chronicle before moments)
      (ran : advance.apply before = (result, after)) :
      Chronicle after (moments ++ before.moments)
  | aside {before : Engine σ} {moments : List Store} {issued : Nat}
      (earlier : Chronicle before moments)
      (notBefore : before.issued ≤ issued) (journal : List Notice) :
      Chronicle { before with issued := issued, journal := journal } moments

variable {moments : List Store}

theorem Chronicle.reachable (chronicle : Chronicle engine moments) :
    Reachable engine := by
  induction chronicle with
  | made made =>
      exact .made made
  | seeded earlier ran inductionHypothesis =>
      exact .step inductionHypothesis (.seeded _ ran)
  | placed earlier sized native enough bytes found vacant ran
      inductionHypothesis =>
      exact .step inductionHypothesis
        (.placed sized native enough bytes found vacant ran)
  | advanced earlier ran inductionHypothesis =>
      exact .step inductionHypothesis (.advanced ran)
  | aside earlier notBefore journal inductionHypothesis =>
      exact .step inductionHypothesis (.aside notBefore journal)

theorem Reachable.exists_chronicle (reachable : Reachable engine) :
    ∃ moments, Chronicle engine moments := by
  induction reachable with
  | made made =>
      exact ⟨_, .made made⟩
  | step reached step inductionHypothesis =>
      rcases inductionHypothesis with ⟨moments, chronicle⟩
      cases step with
      | seeded patience ran =>
          exact ⟨_, .seeded chronicle ran⟩
      | placed sized native enough bytes found vacant ran =>
          exact ⟨_, .placed chronicle sized native enough bytes found vacant
            ran⟩
      | advanced ran =>
          exact ⟨_, .advanced chronicle ran⟩
      | aside notBefore journal =>
          exact ⟨_, .aside chronicle notBefore journal⟩

/-- What is new in a step is appended to what was known before. -/
theorem Step.grows {later : List Store} (reachable : Reachable engine)
    (step : Step engine after)
    (earlier :
      Store.Grows engine.config.extent.area .empty moments engine.store)
    (grown :
      Store.Grows engine.world.extent.area engine.store later after.store) :
    Store.Grows after.config.extent.area .empty (moments ++ later)
      after.store := by
  have measured : engine.world.extent = engine.config.extent :=
    reachable.measured
  rw [(step.outcome reachable.inOrder).config_eq]
  rw [measured] at grown
  exact earlier.trans grown

theorem Chronicle.grows (chronicle : Chronicle engine moments) :
    Store.empty ∈ moments ∧
      Store.Grows engine.config.extent.area .empty moments engine.store := by
  induction chronicle with
  | made made =>
      rw [(fresh_of_make made).1.stored]
      exact ⟨List.mem_singleton_self _, Store.Grows.single rfl⟩
  | @seeded before after _ patience result earlier ran
      inductionHypothesis =>
      rcases inductionHypothesis with ⟨begun, grown⟩
      have sown :=
        (grows_setup earlier.reachable.inOrder patience).of_apply ran
      refine ⟨List.mem_append_left _ begun, ?_⟩
      refine Step.grows earlier.reachable (.seeded patience ran) grown ?_
      cases result <;> exact sown
  | @placed before after _ position program energy sensors tile result
      earlier sized native enough bytes found vacant ran
      inductionHypothesis =>
      rcases inductionHypothesis with ⟨begun, grown⟩
      have inOrder := earlier.reachable.inOrder
      have step : Step before after :=
        .placed sized native enough bytes found vacant ran
      refine ⟨List.mem_append_left _ begun, ?_⟩
      refine Step.grows earlier.reachable step grown ?_
      rw [apply_place inOrder sized native found] at ran
      cases ran
      have admitted : Codon.checkProgram program = .ok () :=
        Codon.checkProgram_eq_ok_iff.2 ⟨sized.1, sized.2, native⟩
      have unoccupied : before.world.occupant? position = none := by
        rw [World.occupant?_of_tile? found, vacant]
      exact inOrder.grows_joined rfl (World.contains_of_tile? found)
        unoccupied (viable_guest admitted enough bytes)
  | advanced earlier ran inductionHypothesis =>
      rcases inductionHypothesis with ⟨begun, grown⟩
      refine ⟨List.mem_append_left _ begun, ?_⟩
      exact Step.grows earlier.reachable (.advanced ran) grown
        (grows_advance earlier.reachable.inOrder ran)
  | aside earlier notBefore journal inductionHypothesis =>
      exact inductionHypothesis

/-- A store that wastes no slot. -/
structure Thrifty (engine : Engine σ) (moments : List Store) : Prop where
  counted : engine.store.count =
    engine.store.liveCount + engine.store.freeCount
  waiting : engine.store.free.Nodup ∧
    ∀ index, index ∈ engine.store.free ↔
      index < engine.store.count ∧ engine.store.slot index = .vacant
  /-- The most creatures that were ever alive at one moment. -/
  highest : (∃ moment ∈ moments, moment.living = engine.store.count) ∧
    ∀ moment ∈ moments, moment.living ≤ engine.store.count
  bounded : ∀ store ∈ engine.store :: moments,
    (store.count : Int) ≤ engine.config.width * engine.config.height

/-- However many births and deaths a run contains, each slot is either in use
or free to be used, and there were times when all were in use. -/
theorem slots_never_leak :
    (∀ engine : Engine σ, Reachable engine →
      ∃ moments, Chronicle engine moments) ∧
      ∀ (engine : Engine σ) (moments : List Store),
        Chronicle engine moments → Thrifty engine moments := by
  refine ⟨fun engine reachable => reachable.exists_chronicle, ?_⟩
  intro engine moments chronicle
  have consistent := chronicle.reachable.inOrder.consistent
  rcases chronicle.grows with ⟨begun, grown⟩
  have fits : (engine.store.count : Int) ≤ engine.config.extent.area := by
    by_cases some : 0 < engine.store.count
    · exact (grown.full some).1
    · have measured : engine.world.extent = engine.config.extent :=
        chronicle.reachable.measured
      rw [Nat.eq_zero_of_not_pos some, ← measured, World.area_extent]
      exact Int.natCast_nonneg _
  refine
    { counted := ?_
      waiting := ⟨consistent.settled.nodup, fun _ => consistent.mem_free_iff⟩
      highest := ⟨?_, ?_⟩
      bounded := ?_ }
  · rw [Store.liveCount_eq_living consistent.slot_ne_checkedOut,
      consistent.count_eq]
  · by_cases some : 0 < engine.store.count
    · exact (grown.full some).2
    · exact ⟨.empty, begun, (Nat.eq_zero_of_not_pos some).symm⟩
  · intro moment member
    exact Nat.le_trans Array.countP_le_size (grown.within moment member)
  · intro store member
    rcases List.mem_cons.1 member with rfl | earlier
    · exact fits
    · have within := grown.within store earlier
      exact Int.le_trans (Int.ofNat_le.2 within) fits

/-- The slot of a creature that has been killed waits for another one. -/
theorem thrifty_duel :
    ∃ (engine : Engine Script) (moments : List Store),
      engine.store.count = 2 ∧ engine.store.free = [1] ∧
        engine.store.liveCount = 1 ∧ Thrifty engine moments := by
  have figures :
      ((couple (⟨#[0], 0⟩ : Script) ([.gene .attack], 50)
          ([.gene .nop], 10)).map fun engine =>
        let later := (advance.apply engine).2
        (later.store.count, later.store.free, later.store.liveCount)) =
        some (2, [1], 1) := by
    decide +kernel
  rcases Option.map_eq_some_iff.1 figures with ⟨engine, paired, told⟩
  rcases Prod.mk.inj told with ⟨count, told⟩
  rcases Prod.mk.inj told with ⟨free, alive⟩
  have reachable := reachable_of_couple paired (by decide) (by decide)
  rcases reachable.exists_chronicle with ⟨moments, chronicle⟩
  exact ⟨_, _, count, free, alive,
    slots_never_leak.2 _ _ (.advanced chronicle rfl)⟩

end Engine

end Vivarium
