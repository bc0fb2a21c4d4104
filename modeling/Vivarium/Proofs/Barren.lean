import Vivarium.Proofs.Ledger

/-!
# Barren populations

What becomes of creatures that neither eat nor reproduce. They may fight, but
a fight only moves energy from one to the other; nobody is born, no food is
taken, and each turn leaves some energy on the grid. If they do not fight
either, a turn touches nobody but the creature that takes it.
-/

namespace Vivarium

variable {σ : Type}

namespace Creature

def Without (genes : List Gene) (creature : Creature) : Prop :=
  ∀ gene ∈ genes, .gene gene ∉ creature.program

end Creature

namespace Store

variable {store after : Store} {genes : List Gene}

def Without (genes : List Gene) (store : Store) : Prop :=
  ∀ index creature, store.slot index = .stored creature →
    creature.Without genes

theorem Without.write (without : store.Without genes) {index : Nat}
    {held : Slot}
    (written : ∀ other,
      after.slot other = if index = other then held else store.slot other)
    (abstains : ∀ creature, held = .stored creature →
      creature.Without genes) :
    after.Without genes := by
  intro other creature stored
  rw [written] at stored
  by_cases same : index = other
  · rw [if_pos same] at stored
    exact abstains creature stored
  · rw [if_neg same] at stored
    exact without other creature stored

theorem Without.of_get (without : store.Without genes) {handle : Handle}
    {creature : Creature} (known : store.get handle = some creature) :
    creature.Without genes :=
  without _ _ (get_eq_some_iff.1 known).1

end Store

namespace Turn

variable [Dice σ] {turn after : Turn σ} {gene : Gene} {genes : List Gene}

/-! ## Genes -/

theorem Effect.without (effect : Effect turn gene after)
    (childless : gene ≠ .reproduce) (without : turn.store.Without genes) :
    after.store.Without genes := by
  cases effect with
  | @wounded victim occupied known strong =>
      refine without.write (Store.slot_set (Store.lt_count_of_get known) _) ?_
      intro creature same
      cases same
      have abstains : victim.Without genes := without.of_get known
      exact abstains
  | killed occupied known weak =>
      exact without.write
        (Store.slot_release (Store.holds_of_get known)) nofun
  | bred able unoccupied mutated inherits born =>
      exact absurd rfl childless
  | _ =>
      exact without

theorem Effect.totalFood_eq (effect : Effect turn gene after)
    (fasting : gene ≠ .eat) :
    after.world.totalFood = turn.world.totalFood := by
  cases effect with
  | ate found unoccupied =>
      exact absurd rfl fasting
  | moved unoccupied =>
      simp
  | killed occupied known weak =>
      simp
  | bred able unoccupied mutated inherits born =>
      simp
  | _ =>
      rfl

/-- A gene that neither feeds nor fights nor breeds leaves the others alone. -/
theorem Effect.peaceful (effect : Effect turn gene after)
    (quiet : gene ∉ [.eat, .reproduce, .attack]) :
    after.store = turn.store ∧
      after.actor.energy = turn.actor.energy ∧ after.tally = turn.tally := by
  cases effect with
  | ate | missed | unresolved | wounded | killed | tired | bred =>
      simp at quiet
  | _ =>
      exact ⟨rfl, rfl, rfl⟩

/-! ## Turns -/

theorem barren_runProgram (inOrder : turn.InOrder)
    (abstains : turn.actor.Without (.eat :: .reproduce :: genes))
    (without : turn.store.Without (.eat :: .reproduce :: genes))
    (ran : runProgram.apply turn = (.ok (), after)) :
    after.store.Without (.eat :: .reproduce :: genes) ∧
      after.world.totalFood = turn.world.totalFood := by
  have ended :=
    (succeeds_runProgram_kept
      (fun later => later.store.Without (.eat :: .reproduce :: genes) ∧
        later.world.totalFood = turn.world.totalFood) inOrder ?_
      ⟨without, rfl⟩).of_apply ran
  · exact ended.2
  · intro before gene later _ carried effect kept
    have childless : gene ≠ .reproduce := by
      rintro rfl
      exact abstains .reproduce (by simp) carried
    have fasting : gene ≠ .eat := by
      rintro rfl
      exact abstains .eat (by simp) carried
    exact ⟨effect.without childless kept.1,
      (effect.totalFood_eq fasting).trans kept.2⟩

omit [Dice σ] in
theorem Upkeep.without {life : Life} (inOrder : turn.InOrder)
    (upkeep : Upkeep turn life after) (without : turn.store.Without genes) :
    after.store.Without genes := by
  cases upkeep with
  | paid solvent =>
      exact without
  | starved broke =>
      exact without.write
        (Store.slot_release inOrder.consistent.holds_actor) nofun

omit [Dice σ] in
/-- What is paid for the upkeep lies on the grid from then on. -/
theorem Upkeep.totalFood_lt {life : Life} (inOrder : turn.InOrder)
    (lively : 1 ≤ turn.actor.energy) (upkeep : Upkeep turn life after) :
    turn.world.totalFood < after.world.totalFood := by
  have charge := Creature.metabolism_pos turn.actor
  cases upkeep with
  | paid solvent =>
      dsimp only
      rw [World.totalFood_addFood inOrder.onGrid]
      omega
  | starved broke =>
      dsimp only
      rw [World.totalFood_setOccupant,
        World.totalFood_addFood inOrder.onGrid]
      omega

theorem Played.barren {life : Life} (inOrder : turn.InOrder)
    (vital : turn.store.Vital) (lively : 1 ≤ turn.actor.energy)
    (abstains : turn.actor.Without (.eat :: .reproduce :: genes))
    (without : turn.store.Without (.eat :: .reproduce :: genes))
    (played : Played turn life after) :
    after.store.Without (.eat :: .reproduce :: genes) ∧
      after.actor.program = turn.actor.program ∧
      turn.world.totalFood < after.world.totalFood := by
  cases played with
  | faded spent =>
      omega
  | @ended middle _ _ _ ran follows upkeep =>
      have audited := audited_runProgram inOrder lively vital ran
      rcases barren_runProgram inOrder abstains without ran with
        ⟨withoutMiddle, sameFood⟩
      have gained := upkeep.totalFood_lt follows.inOrder audited.lively
      rw [sameFood] at gained
      refine ⟨upkeep.without follows.inOrder withoutMiddle, ?_, gained⟩
      have sameProgram := follows.program
      cases upkeep <;> exact sameProgram

/-- In a peaceful turn the actor pays for its upkeep, or starves, and that is
all that happens to the population. -/
theorem Played.peaceful {life : Life} (inOrder : turn.InOrder)
    (lively : turn.actor.energy ≠ 0)
    (quiet : turn.actor.Without [.eat, .reproduce, .attack])
    (played : Played turn life after) :
    after.tally.births = turn.tally.births ∧
      after.tally.kills = turn.tally.kills ∧
      (life = .alive ∧ turn.actor.metabolism < turn.actor.energy ∧
          after.store = turn.store ∧
          after.actor.energy =
            turn.actor.energy - turn.actor.metabolism ∧
          after.actor.diet = turn.actor.diet ∨
        life = .dead ∧ turn.actor.energy ≤ turn.actor.metabolism ∧
          after.store = (turn.store.release turn.actor.handle).2) := by
  cases played with
  | faded spent =>
      exact absurd spent lively
  | @ended middle _ _ _ ran follows upkeep =>
      have ended :=
        (succeeds_runProgram_kept
          (fun later => later.store = turn.store ∧
            later.actor.energy = turn.actor.energy ∧
            later.tally = turn.tally) inOrder ?_
          ⟨rfl, rfl, rfl⟩).of_apply ran
      · rcases ended with ⟨-, sameStore, sameEnergy, sameTally⟩
        have sameCost : middle.actor.metabolism = turn.actor.metabolism :=
          congrArg Diet.metabolism follows.diet
        cases upkeep with
        | paid solvent =>
            rw [sameCost, sameEnergy] at solvent
            refine ⟨congrArg _ sameTally, congrArg _ sameTally,
              Or.inl ⟨rfl, solvent, sameStore, ?_, follows.diet⟩⟩
            show middle.actor.energy + -middle.actor.metabolism = _
            rw [sameCost, sameEnergy]
            rfl
        | starved broke =>
            rw [sameCost, sameEnergy] at broke
            refine ⟨?_, ?_, Or.inr ⟨rfl, broke, ?_⟩⟩
            · show middle.tally.births + 0 = _
              rw [sameTally, Int.add_zero]
            · show middle.tally.kills + 0 = _
              rw [sameTally, Int.add_zero]
            · dsimp only
              rw [sameStore, follows.handle]
      · intro before gene later _ carried effect kept
        have harmless : gene ∉ [.eat, .reproduce, .attack] :=
          fun member => quiet gene member carried
        rcases effect.peaceful harmless with ⟨store, energy, tally⟩
        exact ⟨store.trans kept.1, energy.trans kept.2.1,
          tally.trans kept.2.2⟩

end Turn

/-! ## Visits -/

namespace Habitat

/-- A population in which nobody lacks energy, eats or reproduces, nor does
anything else that is on a list. -/
structure Barren (habitat : Habitat σ) (genes : List Gene) : Prop where
  inOrder : habitat.InOrder
  vital : habitat.store.Vital
  without : habitat.store.Without (.eat :: .reproduce :: genes)

end Habitat

namespace Scene

variable [Dice σ] {scene after : Scene σ} {handle : Handle} {turn : Turn σ}
  {genes : List Gene}

omit [Dice σ] in
private theorem without_opens (without : scene.store.Without genes)
    (opened : scene.turn? handle = some turn) :
    turn.actor.Without genes ∧ turn.store.Without genes := by
  rcases turn?_eq_some_iff.1 opened with ⟨actor, found, rfl⟩
  exact ⟨without.of_get found, without.write (Store.slot_take found) nofun⟩

omit [Dice σ] in
private theorem world_opens (opened : scene.turn? handle = some turn) :
    turn.world = scene.world := by
  rcases turn?_eq_some_iff.1 opened with ⟨actor, found, rfl⟩
  rfl

theorem Visited.without (inOrder : scene.InOrder)
    (vital : scene.store.Vital)
    (without : scene.store.Without (.eat :: .reproduce :: genes))
    (visited : Visited scene handle after) :
    after.store.Without (.eat :: .reproduce :: genes) ∧
      (scene.world.totalFood < after.world.totalFood ∨
        scene.turn? handle = none ∧ after = scene) := by
  cases visited with
  | gone missing =>
      exact ⟨without, Or.inr ⟨missing, rfl⟩⟩
  | @survived turn finished opened went played =>
      rcases inOrder.opens opened with ⟨turnInOrder, -, -⟩
      rcases vital_opens vital opened with ⟨lively, turnVital⟩
      rcases without_opens without opened with ⟨abstains, turnWithout⟩
      rcases played.barren turnInOrder turnVital lively abstains
        turnWithout with ⟨finishedWithout, sameProgram, gained⟩
      rcases inOrder.holds_survivor opened played with ⟨-, kept⟩
      have bound := Store.lt_count_of_holds kept
      rw [world_opens opened] at gained
      refine ⟨?_, Or.inl gained⟩
      refine finishedWithout.write (Store.slot_set bound _) ?_
      intro creature same
      cases same
      intro gene member
      rw [sameProgram]
      exact abstains gene member
  | @starved turn finished opened went played _ =>
      rcases inOrder.opens opened with ⟨turnInOrder, -, -⟩
      rcases vital_opens vital opened with ⟨lively, turnVital⟩
      rcases without_opens without opened with ⟨abstains, turnWithout⟩
      rcases played.barren turnInOrder turnVital lively abstains
        turnWithout with ⟨finishedWithout, -, gained⟩
      rw [world_opens opened] at gained
      exact ⟨finishedWithout, Or.inl gained⟩
  | faded opened went spent =>
      rcases vital_opens vital opened with ⟨lively, -⟩
      omega

/-- A visit in a barren population. If it finds somebody, some energy is turned
into food. -/
theorem Visited.barren (barren : scene.toHabitat.Barren genes)
    (visited : Visited scene handle after) :
    after.toHabitat.Barren genes ∧
      (scene.world.totalFood < after.world.totalFood ∨
        scene.turn? handle = none ∧ after = scene) := by
  have inOrder : scene.InOrder := barren.inOrder
  rcases visited.without inOrder barren.vital barren.without with
    ⟨without, gained⟩
  exact ⟨⟨visited.inOrder inOrder, (visited.audited inOrder barren.vital).vital,
    without⟩, gained⟩

/-- What a peaceful round makes of the creature under a handle. -/
inductive Ages : Option Creature → Option Creature → Prop where
  | nobody : Ages none none
  | spent {creature : Creature}
      (broke : creature.energy ≤ creature.metabolism) :
      Ages (some creature) none
  | older {creature later : Creature}
      (solvent : creature.metabolism < creature.energy)
      (energy : later.energy = creature.energy - creature.metabolism)
      (diet : later.diet = creature.diet) :
      Ages (some creature) (some later)

/-- In a peaceful population a visit concerns nobody but the creature that is
visited. -/
theorem Visited.ages (barren : scene.toHabitat.Barren [.attack])
    (visited : Visited scene handle after) :
    Ages (scene.store.get handle) (after.store.get handle) ∧
      (∀ other, other ≠ handle →
        after.store.get other = scene.store.get other) ∧
      after.tally.births = scene.tally.births ∧
      after.tally.kills = scene.tally.kills := by
  have inOrder : scene.InOrder := barren.inOrder
  cases visited with
  | gone missing =>
      rw [turn?_eq_none_iff.1 missing]
      exact ⟨.nobody, fun _ _ => rfl, rfl, rfl⟩
  | @survived turn finished opened went played =>
      rcases inOrder.opens opened with ⟨turnInOrder, -, -⟩
      rcases vital_opens barren.vital opened with ⟨lively, -⟩
      rcases without_opens barren.without opened with ⟨actorQuiet, -⟩
      have spent : turn.actor.energy ≠ 0 := by
        omega
      obtain ⟨births, kills, outcome⟩ :=
        played.peaceful turnInOrder spent actorQuiet
      obtain ⟨-, solvent, sameStore, energy, diet⟩ | ⟨impossible, -⟩ := outcome
      · rcases inOrder.holds_survivor opened played with ⟨called, kept⟩
        rcases turn?_eq_some_iff.1 opened with ⟨actor, found, rfl⟩
        refine ⟨?_, ?_, births, kills⟩
        · rw [found]
          dsimp only
          rw [Store.get_set (Store.lt_count_of_holds kept) called]
          exact .older solvent energy diet
        · intro other different
          dsimp only
          rw [Store.get_set_of_ne kept called different, sameStore]
          exact Store.get_take_of_ne found different
      · cases impossible
  | @starved turn finished opened went played lively =>
      rcases inOrder.opens opened with ⟨turnInOrder, named, -⟩
      rcases without_opens barren.without opened with ⟨actorQuiet, -⟩
      obtain ⟨births, kills, outcome⟩ :=
        played.peaceful turnInOrder lively actorQuiet
      obtain ⟨impossible, -⟩ | ⟨-, broke, sameStore⟩ := outcome
      · cases impossible
      · have kept := inOrder.holds_opened opened
        rw [named] at sameStore
        rcases turn?_eq_some_iff.1 opened with ⟨actor, found, rfl⟩
        refine ⟨?_, ?_, births, kills⟩
        · rw [found, sameStore, Store.get_release_self kept]
          exact .spent broke
        · intro other different
          rw [sameStore, Store.get_release_of_ne kept different]
          exact Store.get_take_of_ne found different
  | faded opened went spent =>
      rcases vital_opens barren.vital opened with ⟨lively, -⟩
      omega

end Scene

end Vivarium
