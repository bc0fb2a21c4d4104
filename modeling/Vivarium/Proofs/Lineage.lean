import Vivarium.Proofs.Pedigrees
import Vivarium.Proofs.Schedule
import Vivarium.Proofs.Slots

/-!
# Lineages

A run is watched from its beginning, within its rounds too. A creature never
changes its program or its diet, and a child has the program of its parent with
at most one gene replaced or added. So programs do not get shorter from parents
to children.
-/

namespace Vivarium

variable {σ : Type}

/-! ## Who is seen -/

namespace Store

def sight (store : Store) (out : Option Creature) : Sight where
  living := out.toList ++ store.creatures
  births := []

private theorem not_mem_births {store : Store} {out : Option Creature}
    {birth : Creature × Creature} : birth ∉ (store.sight out).births :=
  List.not_mem_nil

private theorem exists_resident_of_sight {store : Store} {creature : Creature}
    (seen : creature ∈ (store.sight none).living) :
    ∃ index, store.residents none index = some creature := by
  obtain ⟨index, stored⟩ := mem_creatures_iff.1 seen
  exact ⟨index, residents_none_eq_some_iff.2 stored⟩

end Store

private theorem Consistent.exists_resident_of_sight
    {world : World} {store : Store}
    {issued : Nat} {out : Option Creature}
    (consistent : Consistent world store issued out) {creature : Creature}
    (seen : creature ∈ (store.sight out).living) :
    ∃ index, store.residents out index = some creature := by
  rcases List.mem_append.1 seen with isOut | stored
  · rw [Option.mem_toList] at isOut
    cases isOut
    exact ⟨_, store.residents_self creature⟩
  · rcases Store.mem_creatures_iff.1 stored with ⟨index, stored⟩
    exact ⟨index, (consistent.resident_of_slot stored).1⟩

/-- A newcomer comes under the next stamp. -/
private theorem Consistent.passes_spawn {world : World} {store : Store}
    {issued : Nat} {out : Option Creature} {creature : Creature}
    (consistent : Consistent world store issued out)
    (named : creature.handle = (store.allocate issued).1) :
    Muster.Passes (some creature) ⟨store.residents out, issued⟩
      ⟨((store.allocate issued).2.1.set creature.handle creature).residents
          out,
        (store.allocate issued).2.2⟩ := by
  have stamp : creature.handle.generation = issued := by
    rw [named, Store.generation_allocate]
  rw [consistent.residents_spawn named, Store.issued_allocate]
  exact Muster.passes_join stamp

/-- A look at those who are there. -/
private theorem Muster.Passes.leads_sight {before after : Muster}
    (passes : before.Passes none after) {kind : List Codon → Prop}
    {store : Store} {out : Option Creature}
    (present : ∀ {creature}, creature ∈ (store.sight out).living →
      ∃ index, after.residents index = some creature) :
    before.Leads kind [store.sight out] after :=
  passes.leads (fun _ => nofun) (fun _ seen => present seen)
    fun _ born => absurd born Store.not_mem_births

namespace Turn

variable {turn after : Turn σ}

def muster (turn : Turn σ) : Muster where
  residents := turn.store.residents (some turn.actor)
  issued := turn.issued

section Effects

variable [Dice σ]

def sightAfter (entry : Codon × Turn σ) : Sight where
  living := (((carryOut entry.1).apply entry.2).2.store.sight
    (some ((carryOut entry.1).apply entry.2).2.actor)).living
  births :=
    (((carryOut entry.1).apply entry.2).2.store.creatures.filter
      fun creature => creature.handle ∉ entry.2.store.handles).map
        (entry.2.actor, ·)

omit [Dice σ] in
/-- The actor grows older, and nothing else changes. -/
private theorem passes_revise
    {revised : Creature} (ages : turn.actor.Ages revised) :
    turn.muster.Passes none
      { residents := turn.store.residents (some revised)
        issued := turn.issued } := by
  rw [Store.residents_revise ages.handle]
  refine Muster.passes_update ?_
  intro creature same
  cases same
  exact ⟨turn.actor, Store.residents_self _ _, ages⟩

omit [Dice σ] in
/-- Something is written to the slot of another creature. -/
private theorem passes_write (inOrder : turn.InOrder) {victim : Creature}
    (known : turn.store.get victim.handle = some victim) {store : Store}
    {held : Slot}
    (written : ∀ index, store.slot index =
      if victim.handle.slot = index then held else turn.store.slot index)
    (ages : ∀ creature ∈ held.creature?, victim.Ages creature) :
    turn.muster.Passes none
      { turn with store }.muster := by
  rcases inOrder.consistent.resident_of_get known with ⟨present, elsewhere⟩
  have residents := Store.residents_write written elsewhere
  rw [muster, muster, residents]
  refine Muster.passes_update ?_
  intro creature same
  exact ⟨victim, present, ages creature same⟩

/-- A gene brings nobody but a child of the actor. -/
theorem Effect.passes (inOrder : turn.InOrder) {gene : Gene}
    (effect : Effect turn gene after) :
    ∃ newcomer, turn.muster.Passes newcomer after.muster ∧
      ∀ child ∈ newcomer,
        Codon.Inherits turn.actor.program child.program ∧
          child.diet = Diet.classify child.program := by
  have consistent := inOrder.consistent
  cases effect with
  | idle | blocked | missed | unresolved | tired =>
      exact ⟨none, .refl _, nofun⟩
  | foraged | scouted | inverted | moved | ate =>
      exact ⟨none, passes_revise ⟨rfl, rfl, rfl⟩, nofun⟩
  | @wounded victim occupied known strong =>
      have kept := Store.holds_of_get known
      have bound := Store.lt_count_of_holds kept
      have hurt := passes_write inOrder known
        (Store.slot_set bound
          { victim with energy := victim.energy - attackDamage })
        (by
          intro creature same
          cases same
          exact ⟨rfl, rfl, rfl⟩)
      exact ⟨none, hurt.trans (passes_revise ⟨rfl, rfl, rfl⟩), nofun⟩
  | @killed victim occupied known weak =>
      have kept := Store.holds_of_get known
      have gone := passes_write inOrder known (Store.slot_release kept)
        nofun
      exact ⟨none, gone.trans (passes_revise ⟨rfl, rfl, rfl⟩), nofun⟩
  | @bred program dice child able unoccupied mutated inherits born =>
      have named : child.handle = (turn.store.allocate turn.issued).1 :=
        congrArg Creature.handle born
      have joined : turn.muster.Passes (some child)
          { turn with
            store :=
              (turn.store.allocate turn.issued).2.1.set child.handle child
            issued := (turn.store.allocate turn.issued).2.2 }.muster :=
        consistent.passes_spawn named
      refine ⟨some child, joined.trans (passes_revise ⟨rfl, rfl, rfl⟩), ?_⟩
      intro newborn same
      cases same
      rw [born]
      exact ⟨inherits, rfl⟩

/-- What is seen after a gene. -/
private theorem Effect.leads
    (inOrder : turn.InOrder) {gene : Gene} {codon : Codon}
    (effect : Effect turn gene after)
    (applied : (carryOut codon).apply turn = (.ok (), after))
    {kind : List Codon → Prop} (closed : Codon.Closed kind) :
    turn.muster.Leads kind [sightAfter (codon, turn)] after.muster := by
  obtain ⟨newcomer, passes, kin⟩ := effect.passes inOrder
  have afterInOrder := effect.inOrder inOrder
  have actorPresent : turn.muster.residents turn.actor.handle.slot =
      some turn.actor := Store.residents_self _ _
  refine passes.leads ?_ ?_ ?_
  · intro assigned bears child member
    obtain ⟨inherits, diet⟩ := kin child member
    exact ⟨closed inherits (bears actorPresent).kind, diet⟩
  · rw [sightAfter, applied]
    intro creature seen
    exact afterInOrder.consistent.exists_resident_of_sight seen
  · rw [sightAfter, applied]
    intro birth listed
    obtain ⟨child, new, rfl⟩ := List.mem_map.1 listed
    obtain ⟨stored, unlisted⟩ := List.mem_filter.1 new
    refine ⟨List.mem_append_right _ stored, ⟨_, actorPresent⟩, ?_⟩
    obtain ⟨index, inside⟩ := Store.mem_creatures_iff.1 stored
    obtain ⟨present, elsewhere⟩ :=
      afterInOrder.consistent.resident_of_slot inside
    rcases passes.resident present with ⟨young, member, ages⟩ |
      ⟨young, was, ages⟩
    · rw [ages.program]
      exact (kin young member).1
    · -- whoever was there before is listed, but for the actor
      have notActor : ∀ actor ∈ some turn.actor,
          actor.handle.slot ≠ index := by
        intro actor same
        cases same
        rw [← effect.actor_kept.1]
        exact elsewhere after.actor rfl
      have known := inOrder.consistent.get_of_resident was notActor
      rw [← ages.handle] at known
      have listed := inOrder.consistent.mem_handles_iff.2 ⟨young, known⟩
      exact absurd listed (of_decide_eq_true unlisted)

/-- While a program runs. -/
private theorem leads_runProgram (inOrder : turn.InOrder)
    (ran : runProgram.apply turn = (.ok (), after))
    {kind : List Codon → Prop} (closed : Codon.Closed kind) :
    turn.muster.Leads kind
      ((Act.trace carryOut turn.actor.program turn).map sightAfter)
      after.muster := by
  have step : ∀ codon ∈ turn.actor.program, ∀ before : Turn σ,
      turn.Follows before →
        (carryOut codon).Succeeds before fun _ later =>
          turn.Follows later ∧
            before.muster.Leads kind [sightAfter (codon, before)]
              later.muster := by
    intro codon member before follows
    rcases inOrder.viable.exists_meaning member with ⟨gene, means⟩
    obtain ⟨_, later, applied, effect⟩ :=
      (succeeds_carryOut follows.inOrder means).exists_apply
    exact Act.succeeds_of_apply applied
      ⟨follows.step effect, effect.leads follows.inOrder applied closed⟩
  have ended :=
    Act.succeeds_forM_recorded (Muster.composable_leads kind) _ muster
      (fun codon before => [sightAfter (codon, before)])
      inOrder.follows_self step
  rw [Act.Succeeds, ← ends_runProgram inOrder] at ended
  rw [List.map_eq_flatMap]
  exact (Act.Ends.of_apply ended ran).2

end Effects

/-! ## Turns -/

/-- Who is there when a turn is over. A creature that has died is there no
more. -/
def left (turn : Turn σ) (life : Life) : Muster where
  residents := turn.store.residents
    (match life with
      | .alive => some turn.actor
      | .dead => none)
  issued := turn.issued

/-- Without the actor there is nobody more than with it. -/
private theorem InOrder.passes_left (inOrder : turn.InOrder) (life : Life) :
    turn.muster.Passes none (turn.left life) := by
  cases life with
  | alive =>
      exact .refl _
  | dead =>
      refine ⟨Nat.le_refl _, nofun, ?_⟩
      intro index creature present
      have stored := Store.residents_none_eq_some_iff.1 present
      exact Or.inr ⟨creature,
        (inOrder.consistent.resident_of_slot stored).1, .refl _⟩

theorem Upkeep.passes (inOrder : turn.InOrder) {life : Life}
    (upkeep : Upkeep turn life after) :
    turn.muster.Passes none (after.left life) := by
  cases upkeep with
  | paid solvent =>
      exact passes_revise ⟨rfl, rfl, rfl⟩
  | starved broke =>
      have released :=
        Store.residents_release inOrder.consistent.holds_actor
      rw [left, released]
      exact Muster.passes_update nofun

section Turns

variable [Dice σ]

/-- All that is to be seen in a turn: at its start, after each gene and at its
end. -/
def sights (turn : Turn σ) : List Sight :=
  turn.store.sight (some turn.actor) ::
    turn.genes.map sightAfter ++
    [(play.apply turn).2.store.sight none]

private theorem Played.leads (inOrder : turn.InOrder) {life : Life}
    (went : play.apply turn = (.ok life, after))
    (played : Played turn life after) {kind : List Codon → Prop}
    (closed : Codon.Closed kind) :
    turn.muster.Leads kind turn.sights (after.left life) := by
  have begun : turn.muster.Leads kind [turn.store.sight (some turn.actor)]
      turn.muster :=
    (Muster.Passes.refl _).leads_sight
      inOrder.consistent.exists_resident_of_sight
  rw [sights, went, genes]
  cases played with
  | faded spent =>
      rw [if_pos spent]
      exact begun.trans ((inOrder.passes_left .dead).leads_sight
        Store.exists_resident_of_sight)
  | @ended middle _ _ lively ran follows upkeep =>
      rw [if_neg lively]
      refine (begun.trans (leads_runProgram inOrder ran closed)).trans ?_
      have passes := upkeep.passes follows.inOrder
      cases life with
      | dead =>
          exact passes.leads_sight Store.exists_resident_of_sight
      | alive =>
          have consistent := (upkeep.inOrder follows.inOrder).1.consistent
          exact passes.leads_sight fun seen =>
            consistent.exists_resident_of_sight
              (List.mem_append_right _ seen)

end Turns

end Turn

/-! ## Rounds -/

def Habitat.muster (habitat : Habitat σ) : Muster where
  residents := habitat.store.residents none
  issued := habitat.issued

namespace Scene

variable [Dice σ] {scene after : Scene σ} {handle : Handle}

/-- All that is to be seen in a visit, the turn and what follows it. -/
def sights (scene : Scene σ) (handle : Handle) : List Sight :=
  (scene.turn? handle).elim [] Turn.sights ++
    [((playHandle handle).apply scene).2.store.sight none]

omit [Dice σ] in
private theorem muster_opens {turn : Turn σ}
    (opened : scene.turn? handle = some turn) :
    turn.muster = scene.muster := by
  rcases turn?_eq_some_iff.1 opened with ⟨actor, found, rfl⟩
  rw [Turn.muster, Habitat.muster, Store.residents_take found]

private theorem Visited.leads (inOrder : scene.InOrder)
    (applied : (playHandle handle).apply scene = (.ok (), after))
    (visited : Visited scene handle after) {kind : List Codon → Prop}
    (closed : Codon.Closed kind) :
    scene.muster.Leads kind (scene.sights handle) after.muster := by
  rw [sights, applied]
  cases visited with
  | gone missing =>
      rw [missing]
      exact (Muster.Passes.refl _).leads_sight
        Store.exists_resident_of_sight
  | @survived turn finished opened went played =>
      rcases inOrder.opens opened with ⟨turnInOrder, -, -⟩
      rcases inOrder.holds_survivor opened played with ⟨called, kept⟩
      have course := played.leads turnInOrder went closed
      rw [← called] at kept
      have back := Store.residents_put (Store.lt_count_of_holds kept)
      rw [called] at back
      rw [muster_opens opened] at course
      rw [opened]
      refine course.trans (Muster.Passes.leads_sight ?_
        Store.exists_resident_of_sight)
      rw [Habitat.muster, back]
      exact .refl _
  | @starved turn finished opened went played lively =>
      rcases inOrder.opens opened with ⟨turnInOrder, -, -⟩
      have course := played.leads turnInOrder went closed
      rw [muster_opens opened] at course
      rw [opened]
      exact course.trans ((Muster.Passes.refl _).leads_sight
        Store.exists_resident_of_sight)
  | @faded turn opened went spent =>
      rcases inOrder.opens opened with ⟨turnInOrder, -, -⟩
      have course :=
        (Turn.Played.faded spent).leads turnInOrder went closed
      have kept := inOrder.holds_opened opened
      have gone :=
        Store.residents_write (Store.slot_release kept)
          (show ∀ actor ∈ (none : Option Creature),
            actor.handle.slot ≠ handle.slot from nofun)
      rw [muster_opens opened] at course
      rw [opened]
      refine course.trans (Muster.Passes.leads_sight ?_
        Store.exists_resident_of_sight)
      rw [Habitat.muster, gone]
      exact Muster.passes_update nofun

end Scene

/-! ## Whole runs -/

namespace Engine

open Habitat

variable [Dice σ] {engine after : Engine σ} {kind : List Codon → Prop}

def sights (engine : Engine σ) : List Sight :=
  engine.visits.flatMap fun (handle, scene) => scene.sights handle

theorem leads_advance (inOrder : engine.toHabitat.InOrder)
    {result : Except Fault Bool}
    (ran : advance.apply engine = (result, after))
    (closed : Codon.Closed kind) :
    engine.muster.Leads kind engine.sights after.muster := by
  have openingInOrder : engine.opening.InOrder := inOrder
  have step : ∀ handle ∈ engine.store.handles, ∀ before : Scene σ,
      before.InOrder →
        (Scene.playHandle handle).Succeeds before fun _ later =>
          later.InOrder ∧
            before.muster.Leads kind (before.sights handle)
              later.muster := by
    intro handle _ before beforeInOrder
    obtain ⟨_, later, applied, visited⟩ :=
      (Scene.succeeds_playHandle beforeInOrder handle).exists_apply
    exact Act.succeeds_of_apply applied
      ⟨visited.inOrder beforeInOrder,
        visited.leads beforeInOrder applied closed⟩
  have ended :=
    Act.succeeds_forM_recorded (Muster.composable_leads kind) _
      (fun later : Scene σ => later.muster)
      (fun handle before => before.sights handle) openingInOrder step
  obtain ⟨answer, last, applied, advanced⟩ :=
    (succeeds_advance inOrder).exists_apply
  rw [applied] at ran
  cases ran
  cases advanced with
  | idle empty journal =>
      rw [sights, visits, empty]
      exact .refl _
  | went lively played sceneInOrder =>
      exact (ended.of_apply played).2

omit [Dice σ] in
private theorem leads_joined {habitat : Habitat σ} (inOrder : habitat.InOrder)
    {creature : Creature} (named : creature.handle = habitat.nextHandle)
    (fit : kind creature.program)
    (diet : creature.diet = Diet.classify creature.program) :
    habitat.muster.Leads kind [(habitat.joined creature).store.sight none]
      (habitat.joined creature).muster := by
  have passes := inOrder.consistent.passes_spawn named
  refine passes.leads ?_ (fun _ => Store.exists_resident_of_sight)
    fun _ born => absurd born Store.not_mem_births
  intro assigned _ newcomer same
  cases same
  exact ⟨fit, diet⟩

theorem leads_setup (inOrder : engine.toHabitat.InOrder) (patience : Nat)
    (starter : kind Codon.starter) {result : Except Fault (List Handle)}
    (ran : (setup patience).apply engine = (result, after)) :
    engine.muster.Leads kind
      ((engine.sowings patience).map fun store => store.sight none)
      after.muster := by
  have composable : Act.Composable fun before stores after =>
      Muster.Leads kind before
        (stores.map fun store : Store => store.sight none) after := by
    refine ⟨Muster.Leads.refl, ?_⟩
    intro first middle last early late begun rest
    rw [List.map_append]
    exact begun.trans rest
  have arrival : ∀ {before : Habitat σ} {position : Position} (dice : σ),
      before.InOrder → before.world.contains position = true →
        before.world.occupant? position = none →
        let after := ({ before with dice } : Habitat σ).joined
          (Creature.born before.nextHandle position Codon.starter)
        after.InOrder ∧
          before.muster.Leads kind [after.store.sight none]
            after.muster := by
    intro before position dice beforeInOrder onGrid unoccupied
    have rolled : ({ before with dice } : Habitat σ).InOrder :=
      beforeInOrder
    have viable : (Creature.born before.nextHandle position
        Codon.starter).Viable :=
      Creature.viable_born Codon.checkProgram_starter
    exact ⟨rolled.joined rfl onGrid unoccupied viable,
      leads_joined rolled rfl starter viable.diet⟩
  have ended :=
    (ends_setup_recorded composable Habitat.InOrder muster arrival
      (fun _ _ _ => rfl) patience inOrder).of_apply ran
  cases result <;> exact ended

/-- A run up to now and all that has been seen in it, from its first state on.
The host places creatures with none but the invited programs. -/
inductive Annals (invited : List Codon → Prop) :
    Engine σ → List Sight → Prop where
  | made {config : Config} {seed : Option Int} {dice : σ} {issued : Nat}
      {runId : String} {engine : Engine σ}
      (made : make config seed dice issued runId = .ok engine) :
      Annals invited engine [engine.store.sight none]
  | seeded {before after : Engine σ} {sights : List Sight} {patience : Nat}
      {result : Except Fault (List Handle)}
      (earlier : Annals invited before sights)
      (ran : (setup patience).apply before = (result, after)) :
      Annals invited after
        (sights ++
          (before.sowings patience).map (fun store => store.sight none) ++
          [after.store.sight none])
  | placed {before after : Engine σ} {sights : List Sight}
      {position : Position} {program : List Codon} {energy : Int}
      {sensors : Sensors} {tile : Tile} {result : Except Fault Handle}
      (earlier : Annals invited before sights) (welcome : invited program)
      (sized : 1 ≤ program.length ∧ program.length ≤ Gene.maxProgram)
      (native : ∀ codon ∈ program, codon.isGene = true)
      (enough : 0 ≤ energy) (bytes : sensors.InRange)
      (found : before.world.tile? position = some tile)
      (vacant : tile.occupant = none)
      (ran :
        (shared (place position program energy sensors)).apply before =
          (result, after)) :
      Annals invited after (sights ++ [after.store.sight none])
  | advanced {before after : Engine σ} {sights : List Sight}
      {result : Except Fault Bool} (earlier : Annals invited before sights)
      (ran : advance.apply before = (result, after)) :
      Annals invited after
        (sights ++ before.sights ++ [after.store.sight none])
  | aside {before : Engine σ} {sights : List Sight} {issued : Nat}
      (earlier : Annals invited before sights)
      (notBefore : before.issued ≤ issued) (journal : List Notice) :
      Annals invited { before with issued := issued, journal := journal }
        sights

variable {invited : List Codon → Prop} {sights : List Sight}

theorem Annals.reachable (annals : Annals invited engine sights) :
    Reachable engine := by
  induction annals with
  | made made =>
      exact .made made
  | seeded earlier ran inductionHypothesis =>
      exact .step inductionHypothesis (.seeded _ ran)
  | placed earlier welcome sized native enough bytes found vacant ran
      inductionHypothesis =>
      exact .step inductionHypothesis
        (.placed sized native enough bytes found vacant ran)
  | advanced earlier ran inductionHypothesis =>
      exact .step inductionHypothesis (.advanced ran)
  | aside earlier notBefore journal inductionHypothesis =>
      exact .step inductionHypothesis (.aside notBefore journal)

theorem Reachable.exists_annals (reachable : Reachable engine) :
    ∃ sights, Annals (fun _ => True) engine sights := by
  induction reachable with
  | made made =>
      exact ⟨_, .made made⟩
  | step reached step inductionHypothesis =>
      rcases inductionHypothesis with ⟨sights, annals⟩
      cases step with
      | seeded patience ran =>
          exact ⟨_, .seeded annals ran⟩
      | placed sized native enough bytes found vacant ran =>
          exact ⟨_, .placed annals trivial sized native enough bytes found
            vacant ran⟩
      | advanced ran =>
          exact ⟨_, .advanced annals ran⟩
      | aside notBefore journal =>
          exact ⟨_, .aside annals notBefore journal⟩

theorem Seeded.exists_annals {config : Config}
    (seeded : Seeded config engine) :
    ∃ sights, Annals (fun _ => False) engine sights := by
  induction seeded with
  | start made ran =>
      exact ⟨_, .seeded (.made made) ran⟩
  | advanced seeded ran inductionHypothesis =>
      rcases inductionHypothesis with ⟨sights, annals⟩
      exact ⟨_, .advanced annals ran⟩
  | aside seeded notBefore journal inductionHypothesis =>
      rcases inductionHypothesis with ⟨sights, annals⟩
      exact ⟨_, .aside annals notBefore journal⟩

theorem Annals.current (annals : Annals invited engine sights) :
    engine.store.sight none ∈ sights := by
  induction annals with
  | made made =>
      exact List.mem_singleton_self _
  | seeded earlier ran inductionHypothesis =>
      exact List.mem_append_right _ (List.mem_singleton_self _)
  | placed earlier welcome sized native enough bytes found vacant ran
      inductionHypothesis =>
      exact List.mem_append_right _ (List.mem_singleton_self _)
  | advanced earlier ran inductionHypothesis =>
      exact List.mem_append_right _ (List.mem_singleton_self _)
  | aside earlier notBefore journal inductionHypothesis =>
      exact inductionHypothesis

/-- All that has been seen accords with one assignment of programs. -/
def Explained (kind : List Codon → Prop) (engine : Engine σ)
    (sights : List Sight) : Prop :=
  ∃ assigned : Nat → List Codon,
    engine.muster.Bears assigned kind ∧
      ∀ sight ∈ sights, sight.Accords assigned kind engine.issued

omit [Dice σ] in
theorem Explained.extend {later : List Sight}
    (explained : Explained kind engine sights)
    (leads : engine.muster.Leads kind later after.muster) :
    Explained kind after (sights ++ later) := by
  rcases explained with ⟨assigned, bears, seen⟩
  obtain ⟨extended, same, bearsAfter, seenLater⟩ := leads.extend bears
  refine ⟨extended, bearsAfter, ?_⟩
  intro sight member
  rcases List.mem_append.1 member with early | late
  · exact (seen sight early).extend same leads.notBefore
  · exact seenLater sight late

omit [Dice σ] in
private theorem Explained.look (explained : Explained kind engine sights) :
    Explained kind engine (sights ++ [engine.store.sight none]) :=
  explained.extend ((Muster.Passes.refl _).leads_sight
    Store.exists_resident_of_sight)

theorem Annals.explained (annals : Annals invited engine sights)
    (closed : Codon.Closed kind) (starter : kind Codon.starter)
    (guests : ∀ program, invited program → 1 ≤ program.length →
      program.length ≤ Gene.maxProgram → kind program) :
    Explained kind engine sights := by
  induction annals with
  | made made =>
      have nobody := (fresh_of_make made).1.stored
      refine ⟨fun _ => [], ?_, ?_⟩
      · intro index creature present
        rw [muster, nobody] at present
        cases present
      · intro sight member
        obtain rfl := List.mem_singleton.1 member
        rw [nobody]
        exact ⟨fun _ seen => absurd seen List.not_mem_nil,
          fun _ born => absurd born Store.not_mem_births⟩
  | seeded earlier ran inductionHypothesis =>
      exact (inductionHypothesis.extend
        (leads_setup earlier.reachable.inOrder _ starter ran)).look
  | @placed before after _ position program energy sensors tile result
      earlier welcome sized native enough bytes found vacant ran
      inductionHypothesis =>
      have inOrder := earlier.reachable.inOrder
      have fit := guests program welcome sized.1 sized.2
      have arrived : before.muster.Leads kind
          [(before.joined (before.guest position program energy
            sensors)).store.sight none]
          (before.joined (before.guest position program energy
            sensors)).muster :=
        leads_joined inOrder rfl fit rfl
      rw [apply_place inOrder sized native found] at ran
      cases ran
      exact inductionHypothesis.extend arrived
  | advanced earlier ran inductionHypothesis =>
      exact (inductionHypothesis.extend
        (leads_advance earlier.reachable.inOrder ran closed)).look
  | aside earlier notBefore journal inductionHypothesis =>
      rcases inductionHypothesis with ⟨assigned, bears, seen⟩
      refine ⟨assigned, ?_, ?_⟩
      · intro index creature present
        exact (bears present).extend (fun _ _ => rfl) notBefore
      · intro sight member
        exact (seen sight member).extend (fun _ _ => rfl) notBefore

def Begets (sights : List Sight) (parent child : Handle) : Prop :=
  ∃ sight ∈ sights, ∃ birth ∈ sight.births,
    birth.1.handle = parent ∧ birth.2.handle = child

private theorem length_le_of_begets {assigned : Nat → List Codon} {issued : Nat}
    (seen : ∀ sight ∈ sights, sight.Accords assigned kind issued)
    {ancestor descendant : Handle}
    (line : Relation.ReflTransGen (Begets sights) ancestor descendant) :
    (assigned ancestor.generation).length ≤
      (assigned descendant.generation).length := by
  induction line with
  | refl =>
      exact Nat.le_refl _
  | tail earlier begets inductionHypothesis =>
      refine Nat.le_trans inductionHypothesis ?_
      rcases begets with ⟨sight, member, birth, born, rfl, rfl⟩
      obtain ⟨parent, child, inherits⟩ :=
        (seen sight member).births birth born
      rw [← parent.program, ← child.program]
      exact inherits.length_le

/-- What is handed on in a run. -/
structure Hereditary (engine : Engine σ) (sights : List Sight) : Prop where
  current : engine.store.sight none ∈ sights
  lasting : ∀ sight ∈ sights, ∀ later ∈ sights,
    ∀ creature ∈ sight.living, ∀ older ∈ later.living,
      older.handle = creature.handle →
        older.program = creature.program ∧ older.diet = creature.diet
  classified : ∀ sight ∈ sights, ∀ creature ∈ sight.living,
    creature.diet = Diet.classify creature.program ∧
      1 ≤ creature.program.length ∧
      creature.program.length ≤ Gene.maxProgram
  inherited : ∀ sight ∈ sights, ∀ birth ∈ sight.births,
    Codon.Inherits birth.1.program birth.2.program
  /-- Programs do not get shorter along a lineage. -/
  growing : ∀ sight ∈ sights, ∀ later ∈ sights,
    ∀ ancestor ∈ sight.living, ∀ descendant ∈ later.living,
      Relation.ReflTransGen (Begets sights) ancestor.handle
          descendant.handle →
        ancestor.program.length ≤ descendant.program.length

omit [Dice σ] in
private theorem Explained.hereditary
    (current : engine.store.sight none ∈ sights)
    (explained : Explained
      (fun program => 1 ≤ program.length ∧
        program.length ≤ Gene.maxProgram) engine sights) :
    Hereditary engine sights := by
  rcases explained with ⟨assigned, -, seen⟩
  have programs : ∀ sight ∈ sights, ∀ creature ∈ sight.living,
      creature.program = assigned creature.handle.generation :=
    fun sight member creature listed =>
      ((seen sight member).living creature listed).program
  refine ⟨current, ?_, ?_, ?_, ?_⟩
  · intro sight member later memberLater creature listed older listedLater
      same
    have program : older.program = creature.program := by
      rw [programs later memberLater older listedLater, same,
        programs sight member creature listed]
    have young := (seen sight member).living creature listed
    have old := (seen later memberLater).living older listedLater
    refine ⟨program, ?_⟩
    rw [old.diet, young.diet, program]
  · intro sight member creature listed
    have bears := (seen sight member).living creature listed
    exact ⟨bears.diet, bears.kind⟩
  · intro sight member birth listed
    exact ((seen sight member).births birth listed).2.2
  · intro sight member later memberLater ancestor listed descendant
      listedLater line
    rw [programs sight member ancestor listed,
      programs later memberLater descendant listedLater]
    exact length_le_of_begets seen line

/-- Programs and diets are fixed for life, and lineages only grow. -/
theorem genes_are_for_life :
    (∀ engine : Engine σ, Reachable engine →
      ∃ sights, Annals (fun _ => True) engine sights) ∧
    (∀ (config : Config) (engine : Engine σ), Seeded config engine →
      ∃ sights, Annals (fun _ => False) engine sights) ∧
    ∀ (invited : List Codon → Prop) (engine : Engine σ)
      (sights : List Sight), Annals invited engine sights →
        Hereditary engine sights ∧
          ((∀ program, ¬ invited program) →
            ∀ sight ∈ sights, ∀ creature ∈ sight.living,
              2 ≤ creature.program.length ∧
                creature.program.length ≤ Gene.maxProgram) := by
  refine ⟨fun _ reachable => reachable.exists_annals,
    fun _ _ seeded => seeded.exists_annals, ?_⟩
  intro invited engine sights annals
  refine ⟨?_, ?_⟩
  · exact (annals.explained (Codon.closed_sized 1) (by decide)
      fun _ _ nonempty short => ⟨nonempty, short⟩).hereditary
        annals.current
  · intro nobody sight member creature listed
    obtain ⟨assigned, -, seen⟩ :=
      annals.explained (Codon.closed_sized 2) (by decide)
        fun program welcome => absurd welcome (nobody program)
    exact ((seen sight member).living creature listed).kind

/-- A creature with energy for a child has one, and in a run that is left to
itself a seeded creature is watched. -/
theorem breeder_genes_are_for_life :
    (∃ (engine : Engine Script) (sights : List Sight),
      Begets sights ⟨0, 0⟩ ⟨1, 1⟩ ∧ Hereditary engine sights) ∧
    ∃ (engine : Engine Script) (sights : List Sight),
      engine.store.liveCount = 1 ∧ engine.store.sight none ∈ sights ∧
        ∀ sight ∈ sights, ∀ creature ∈ sight.living,
          2 ≤ creature.program.length ∧
            creature.program.length ≤ Gene.maxProgram := by
  refine ⟨?_, ?_⟩
  · let config := { twoTiles with initialPopulation := 0 }
    let peopled (start : Engine Script) :=
      ((shared (place ⟨0, 0⟩ [.gene .reproduce] 250 .midpoint)).apply
        start).2
    obtain ⟨start, made⟩ :=
      exists_make_unseeded (show config.validate = .ok () from rfl)
        (⟨#[0], 0⟩ : Script) 0 ""
    have figures :
        ((make config none (⟨#[0], 0⟩ : Script) 0 "").toOption.map
          fun start =>
            (start.world.tile? ⟨0, 0⟩,
              ((peopled start).sights.flatMap Sight.births).map
                fun birth => (birth.1.handle, birth.2.handle))) =
          some (some ⟨50, none⟩, [(⟨0, 0⟩, ⟨1, 1⟩)]) := by
      decide +kernel
    rw [made] at figures
    rcases Prod.mk.inj (Option.some.inj figures) with ⟨home, births⟩
    have reachable : Reachable (peopled start) :=
      (Reachable.made made).place home rfl rfl (by decide)
        Sensors.inRange_midpoint
    obtain ⟨sights, annals⟩ := genes_are_for_life.1 _ reachable
    rcases ran : advance.apply (peopled start) with ⟨result, after⟩
    obtain ⟨hereditary, -⟩ :=
      genes_are_for_life.2.2 _ _ _ (annals.advanced ran)
    refine ⟨_, _, ?_, hereditary⟩
    have listed : ((⟨0, 0⟩, ⟨1, 1⟩) : Handle × Handle) ∈
        ((peopled start).sights.flatMap Sight.births).map
          fun birth => (birth.1.handle, birth.2.handle) := by
      rw [births]
      exact List.mem_singleton_self _
    obtain ⟨birth, member, named⟩ := List.mem_map.1 listed
    obtain ⟨sight, seen, born⟩ := List.mem_flatMap.1 member
    rcases Prod.mk.inj named with ⟨parent, child⟩
    exact ⟨sight,
      List.mem_append_left _ (List.mem_append_right sights seen), birth,
      born, parent, child⟩
  · rcases exists_seeded_twoTiles with ⟨engine, seeded, -, alive⟩
    obtain ⟨sights, annals⟩ := genes_are_for_life.2.1 twoTiles engine seeded
    obtain ⟨hereditary, sized⟩ := genes_are_for_life.2.2 _ _ _ annals
    exact ⟨engine, sights, alive, hereditary.current, sized fun _ => id⟩

end Engine

end Vivarium
