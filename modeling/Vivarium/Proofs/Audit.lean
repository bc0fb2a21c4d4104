import Vivarium.Proofs.Wealth

/-!
# The audit of a round

Births and deaths are tallied where they happen, while the store changes on
the way. As long as all creatures have some energy to begin with, none is left
without in the course of a round: a victim with no more than the damage is
killed at once, and an actor with no more than its upkeep starves. So nobody
dies untallied, and a stamp is drawn for each birth and for nothing else.
-/

namespace Vivarium

variable {σ : Type}

namespace Tally

def growth (tally : Tally) : Int :=
  tally.births - tally.kills - tally.starvations

theorem growth_merge (tally other : Tally) :
    (tally.merge other).growth = tally.growth + other.growth := by
  simp only [growth, merge]
  omega

end Tally

/-! ## Energy to live on -/

namespace Store

variable {store after : Store}

def Vital (store : Store) : Prop :=
  ∀ index creature, store.slot index = .stored creature →
    1 ≤ creature.energy

theorem Vital.write (vital : store.Vital) {index : Nat} {held : Slot}
    (written : ∀ other,
      after.slot other = if index = other then held else store.slot other)
    (lively : ∀ creature, held = .stored creature → 1 ≤ creature.energy) :
    after.Vital := by
  intro other creature stored
  rw [written] at stored
  split at stored
  · exact lively creature stored
  · exact vital other creature stored

theorem Vital.of_get (vital : store.Vital) {handle : Handle}
    {creature : Creature} (known : store.get handle = some creature) :
    1 ≤ creature.energy :=
  vital _ _ (get_eq_some_iff.1 known).1

theorem Vital.release (vital : store.Vital) {handle : Handle}
    (kept : store.holds handle = true) :
    (store.release handle).2.Vital :=
  vital.write (slot_release kept) nofun

theorem liveCount_eq_total (store : Store) :
    (store.liveCount : Int) = store.total fun _ => 1 := by
  rw [liveCount, total, List.map_const', List.sum_replicate_int,
    Int.mul_one]

end Store

namespace Scene

/-- The creatures that births and deaths of the tally do not account for. -/
def founders (scene : Scene σ) : Int :=
  scene.store.liveCount - scene.tally.growth

/-- The stamps that births of the tally do not account for. -/
def otherStamps (scene : Scene σ) : Int :=
  scene.issued - scene.tally.births

/-- A later scene of the same round: nobody is without energy, and whatever
has become more or less since then has been tallied. -/
structure Audited (scene later : Scene σ) : Prop where
  vital : later.store.Vital
  founders : later.founders = scene.founders
  stamps : later.otherStamps = scene.otherStamps

end Scene

namespace Turn

variable {turn after : Turn σ}

/-- The same with the creature that is out of the store counted among
them. -/
def founders (turn : Turn σ) : Int :=
  turn.toScene.founders + 1

structure Audited (turn later : Turn σ) : Prop where
  lively : 1 ≤ later.actor.energy
  vital : later.store.Vital
  founders : later.founders = turn.founders
  stamps : later.otherStamps = turn.otherStamps

/-! ## Genes -/

section Genes

variable [Dice σ] {gene : Gene}

theorem Effect.lively (inOrder : turn.InOrder)
    (effect : Effect turn gene after) (lively : 1 ≤ turn.actor.energy) :
    1 ≤ after.actor.energy := by
  have consistent := inOrder.consistent
  cases effect with
  | @ate tile found unoccupied =>
      have fed := consistent.settled.fed found
      show 1 ≤ turn.actor.energy + min eatQuota tile.food
      unfold eatQuota
      omega
  | wounded occupied known strong =>
      show 1 ≤ turn.actor.energy + attackDamage
      unfold attackDamage
      omega
  | killed occupied known weak =>
      have yield := (consistent.viable_of_get known).energy
      show 1 ≤ turn.actor.energy + _
      omega
  | bred able unoccupied mutated inherits born =>
      show 1 ≤ turn.actor.energy + -reproduceCost
      unfold reproduceThreshold at able
      unfold reproduceCost
      omega
  | _ =>
      exact lively

/-- A victim that is not killed keeps something, and the newborn have their
share from birth. -/
theorem Effect.vital (inOrder : turn.InOrder)
    (effect : Effect turn gene after) (vital : turn.store.Vital) :
    after.store.Vital := by
  have consistent := inOrder.consistent
  cases effect with
  | @wounded victim occupied known strong =>
      have bound := Store.lt_count_of_get known
      refine vital.write (Store.slot_set bound _) ?_
      intro creature same
      cases same
      show 1 ≤ victim.energy - attackDamage
      omega
  | killed occupied known weak =>
      exact vital.release (Store.holds_of_get known)
  | @bred _ _ child able unoccupied mutated inherits born =>
      have named : child.handle = (turn.store.allocate turn.issued).1 :=
        congrArg Creature.handle born
      have share : child.energy = initialEnergy :=
        congrArg Creature.energy born
      refine vital.write (consistent.slot_spawn named) ?_
      intro creature same
      cases same
      rw [share]
      decide
  | _ =>
      exact vital

private theorem Effect.founders_eq (inOrder : turn.InOrder)
    (effect : Effect turn gene after) : after.founders = turn.founders := by
  have consistent := inOrder.consistent
  unfold founders Scene.founders
  cases effect with
  | @wounded victim occupied known strong =>
      have bound := Store.lt_count_of_get known
      have stored := (Store.get_eq_some_iff.1 known).1
      have same :
          ((turn.store.set victim.handle
            { victim with
              energy := victim.energy - attackDamage }).liveCount : Int) =
            turn.store.liveCount := by
        rw [Store.liveCount_eq_total, Store.liveCount_eq_total,
          Store.total_set bound, stored]
        exact Int.sub_add_cancel _ _
      dsimp only
      rw [same]
      rfl
  | @killed victim occupied known weak =>
      have stored := (Store.get_eq_some_iff.1 known).1
      have fewer :
          ((turn.store.release victim.handle).2.liveCount : Int) =
            turn.store.liveCount - 1 := by
        rw [Store.liveCount_eq_total, Store.liveCount_eq_total,
          Store.total_release (Store.holds_of_get known), stored]
        rfl
      simp only [Tally.growth, Tally.merge, Tally.zero]
      omega
  | @bred _ _ child able unoccupied mutated inherits born =>
      have named : child.handle = (turn.store.allocate turn.issued).1 :=
        congrArg Creature.handle born
      have more :
          (((turn.store.allocate turn.issued).2.1.set child.handle
              child).liveCount : Int) =
            turn.store.liveCount + 1 := by
        rw [Store.liveCount_eq_total, Store.liveCount_eq_total]
        exact consistent.total_spawn named _
      simp only [Tally.growth, Tally.merge, Tally.zero]
      omega
  | _ =>
      rfl

private theorem Effect.otherStamps_eq (effect : Effect turn gene after) :
    after.otherStamps = turn.otherStamps := by
  unfold Scene.otherStamps
  cases effect with
  | bred able unoccupied mutated inherits born =>
      dsimp only
      rw [Store.issued_allocate]
      show ((turn.issued + 1 : Nat) : Int) - (turn.tally.births + 1) = _
      omega
  | killed occupied known weak =>
      show (turn.issued : Int) - (turn.tally.births + 0) = _
      omega
  | _ =>
      rfl

theorem Audited.step {start : Turn σ} (inOrder : turn.InOrder)
    (effect : Effect turn gene after) (audited : start.Audited turn) :
    start.Audited after where
  lively := effect.lively inOrder audited.lively
  vital := effect.vital inOrder audited.vital
  founders := (effect.founders_eq inOrder).trans audited.founders
  stamps := effect.otherStamps_eq.trans audited.stamps

theorem audited_runProgram (inOrder : turn.InOrder)
    (lively : 1 ≤ turn.actor.energy) (vital : turn.store.Vital)
    (ran : runProgram.apply turn = (.ok (), after)) :
    turn.Audited after := by
  have ended :=
    (succeeds_runProgram_kept turn.Audited inOrder
      (fun follows _ effect audited =>
        audited.step follows.inOrder effect)
      ⟨lively, vital, rfl, rfl⟩).of_apply ran
  exact ended.2

end Genes

/-! ## Upkeep -/

private theorem Upkeep.otherStamps_eq {life : Life}
    (upkeep : Upkeep turn life after) :
    after.otherStamps = turn.otherStamps := by
  unfold Scene.otherStamps
  cases upkeep with
  | paid solvent =>
      rfl
  | starved broke =>
      show (turn.issued : Int) - (turn.tally.births + 0) = _
      omega

/-- An actor that can pay its upkeep has something left. -/
theorem Upkeep.audited {start : Turn σ} (audited : start.Audited turn)
    (upkeep : Upkeep turn .alive after) : start.Audited after where
  lively := by
    cases upkeep with
    | paid solvent =>
        show 1 ≤ turn.actor.energy + -turn.actor.metabolism
        omega
  vital := by
    cases upkeep with
    | paid solvent =>
        exact audited.vital
  founders := by
    cases upkeep with
    | paid solvent =>
        exact audited.founders
  stamps := upkeep.otherStamps_eq.trans audited.stamps

/-- An actor that starves is missed by the store and counted by the tally. -/
private theorem Upkeep.founders_eq (inOrder : turn.InOrder)
    (upkeep : Upkeep turn .dead after) :
    after.toScene.founders = turn.founders := by
  unfold founders Scene.founders
  cases upkeep with
  | starved broke =>
      have same :
          ((turn.store.release turn.actor.handle).2.liveCount : Int) =
            turn.store.liveCount := by
        rw [Store.liveCount_eq_total, Store.liveCount_eq_total]
        exact inOrder.total_release _
      simp only [Tally.growth, Tally.merge, Tally.zero]
      omega

theorem Upkeep.vital (inOrder : turn.InOrder) {life : Life}
    (vital : turn.store.Vital) (upkeep : Upkeep turn life after) :
    after.store.Vital := by
  cases upkeep with
  | paid solvent =>
      exact vital
  | starved broke =>
      exact vital.release inOrder.consistent.holds_actor

end Turn

/-! ## Visits -/

namespace Scene

variable {scene after : Scene σ} {handle : Handle} {turn : Turn σ}

theorem vital_opens (vital : scene.store.Vital)
    (opened : scene.turn? handle = some turn) :
    1 ≤ turn.actor.energy ∧ turn.store.Vital := by
  rcases turn?_eq_some_iff.1 opened with ⟨actor, found, rfl⟩
  exact ⟨vital.of_get found, vital.write (Store.slot_take found) nofun⟩

private theorem founders_opens (opened : scene.turn? handle = some turn) :
    turn.founders = scene.founders := by
  rcases turn?_eq_some_iff.1 opened with ⟨actor, found, rfl⟩
  have fewer :
      ((scene.store.take handle).2.liveCount : Int) =
        scene.store.liveCount - 1 := by
    rw [Store.liveCount_eq_total, Store.liveCount_eq_total]
    exact Store.total_take found
  unfold Turn.founders founders
  dsimp only
  omega

private theorem otherStamps_opens (opened : scene.turn? handle = some turn) :
    turn.otherStamps = scene.otherStamps := by
  rcases turn?_eq_some_iff.1 opened with ⟨actor, found, rfl⟩
  rfl

section Visits

variable [Dice σ]

theorem Visited.audited (inOrder : scene.InOrder)
    (vital : scene.store.Vital) (visited : Visited scene handle after) :
    scene.Audited after := by
  cases visited with
  | gone missing =>
      exact ⟨vital, rfl, rfl⟩
  | @survived turn finished opened went played =>
      rcases inOrder.opens opened with ⟨turnInOrder, -, -⟩
      rcases vital_opens vital opened with ⟨lively, turnVital⟩
      rcases inOrder.holds_survivor opened played with ⟨called, kept⟩
      rcases played.inOrder with ⟨finishedInOrder, -⟩
      have bound := Store.lt_count_of_holds kept
      cases played with
      | ended _ ran follows upkeep =>
          have middle :=
            Turn.audited_runProgram turnInOrder lively turnVital ran
          have audited := upkeep.audited middle
          have more :
              ((finished.store.set handle finished.actor).liveCount : Int) =
                finished.store.liveCount + 1 := by
            have vacated := finishedInOrder.consistent.slot_actor
            rw [called] at vacated
            rw [Store.liveCount_eq_total, Store.liveCount_eq_total,
              Store.total_set bound, vacated]
            exact congrArg (· + _) (Int.sub_zero _)
          refine ⟨?_, ?_, ?_⟩
          · refine audited.vital.write (Store.slot_set bound _) ?_
            intro creature same
            cases same
            exact audited.lively
          · rw [← founders_opens opened, ← audited.founders]
            unfold Turn.founders founders
            dsimp only
            omega
          · rw [← otherStamps_opens opened, ← audited.stamps]
            rfl
  | @starved turn finished opened went played _ =>
      rcases inOrder.opens opened with ⟨turnInOrder, -, -⟩
      rcases vital_opens vital opened with ⟨lively, turnVital⟩
      cases played with
      | faded spent =>
          omega
      | ended _ ran follows upkeep =>
          have middle :=
            Turn.audited_runProgram turnInOrder lively turnVital ran
          refine ⟨upkeep.vital follows.inOrder middle.vital, ?_, ?_⟩
          · rw [upkeep.founders_eq follows.inOrder, middle.founders,
              founders_opens opened]
          · rw [upkeep.otherStamps_eq, middle.stamps,
              otherStamps_opens opened]
  | faded opened went spent =>
      rcases vital_opens vital opened with ⟨lively, -⟩
      omega

omit [Dice σ] in
theorem Audited.trans {middle later : Scene σ}
    (first : scene.Audited middle) (second : middle.Audited later) :
    scene.Audited later where
  vital := second.vital
  founders := second.founders.trans first.founders
  stamps := second.stamps.trans first.stamps

/-- No turn ends before it has begun, and nobody who dies in it has to be
buried afterwards. -/
structure Orderly (scene : Scene σ) (handle : Handle) : Prop where
  lively : ∀ turn, scene.turn? handle = some turn → turn.actor.energy ≠ 0
  released : ∀ turn, scene.turn? handle = some turn →
    ∀ finished, Turn.play.apply turn = (.ok .dead, finished) →
      finished.store.isOut handle = false

theorem InOrder.orderly (inOrder : scene.InOrder)
    (vital : scene.store.Vital) (handle : Handle) :
    scene.Orderly handle where
  lively := by
    intro turn opened
    rcases vital_opens vital opened with ⟨lively, -⟩
    omega
  released := by
    intro turn opened finished went
    rcases inOrder.opens opened with ⟨turnInOrder, -, -⟩
    rcases vital_opens vital opened with ⟨lively, -⟩
    have spent : turn.actor.energy ≠ 0 := by
      omega
    have played : turn.Played .dead finished :=
      (Turn.succeeds_play turnInOrder).of_apply went
    exact (played.consistent spent).isOut_eq_false handle

end Visits

end Scene

end Vivarium
