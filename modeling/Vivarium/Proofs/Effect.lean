import Vivarium.Proofs.Sensing

/-!
# The effect of a gene

Everything that carrying out one gene can do to a turn, with the guards under
which it does so. Whatever a program does is a chain of these effects, so a
property of turns is proved by going through them once.
-/

namespace Vivarium

variable {σ : Type} [Dice σ]

namespace Turn

/-- What carrying out a gene leaves of a turn. -/
inductive Effect (turn : Turn σ) : Gene → Turn σ → Prop where
  | idle : Effect turn .nop turn
  | foraged :
      Effect turn .lookForFood
        { turn with actor.sensors := turn.readings foodReading }
  | scouted :
      Effect turn .lookForCreature
        { turn with actor.sensors := turn.readings creatureReading }
  | inverted :
      Effect turn .invert
        { turn with actor.sensors := turn.actor.sensors.mirrored }
  -- a step, a bite and a birth all need a free tile
  | blocked {gene : Gene} {occupant : Handle}
      (needy : gene = .move ∨ gene = .eat ∨
        gene = .reproduce ∧ reproduceThreshold ≤ turn.actor.energy)
      (occupied : turn.world.occupant? turn.target = some occupant) :
      Effect turn gene turn.rolled
  | moved (unoccupied : turn.world.occupant? turn.target = none) :
      Effect turn .move
        { turn.rolled with
          world :=
            (turn.world.setOccupant turn.actor.position none).setOccupant
              turn.target (some turn.actor.handle)
          actor.position := turn.target }
  | ate {tile : Tile} (found : turn.world.tile? turn.target = some tile)
      (unoccupied : turn.world.occupant? turn.target = none) :
      Effect turn .eat
        { turn.rolled with
          world := turn.world.update turn.target fun tile' =>
            { tile' with food := tile'.food + -min eatQuota tile.food }
          actor.energy := turn.actor.energy + min eatQuota tile.food }
  | missed (unoccupied : turn.world.occupant? turn.target = none) :
      Effect turn .attack turn.rolled
  | unresolved {occupant : Handle}
      (occupied : turn.world.occupant? turn.target = some occupant)
      (unknown : turn.store.get occupant = none) :
      Effect turn .attack
        { turn.rolled with
          journal :=
            .unresolvedAttack turn.actor.handle occupant :: turn.journal }
  | wounded {victim : Creature}
      (occupied : turn.world.occupant? turn.target = some victim.handle)
      (known : turn.store.get victim.handle = some victim)
      (strong : attackDamage < victim.energy) :
      Effect turn .attack
        { turn.rolled with
          store :=
            turn.store.set victim.handle
              { victim with energy := victim.energy - attackDamage }
          actor.energy := turn.actor.energy + attackDamage }
  | killed {victim : Creature}
      (occupied : turn.world.occupant? turn.target = some victim.handle)
      (known : turn.store.get victim.handle = some victim)
      (weak : victim.energy ≤ attackDamage) :
      Effect turn .attack
        { turn.rolled with
          world := turn.world.setOccupant turn.target none
          store := (turn.store.release victim.handle).2
          tally := turn.tally.merge { Tally.zero with kills := 1 }
          journal :=
            .killed turn.actor.handle victim.handle turn.target ::
              turn.journal
          actor.energy := turn.actor.energy + victim.energy }
  | tired (poor : turn.actor.energy < reproduceThreshold) :
      Effect turn .reproduce turn
  | bred {program : List Codon} {dice : σ} {child : Creature}
      (able : reproduceThreshold ≤ turn.actor.energy)
      (unoccupied : turn.world.occupant? turn.target = none)
      (mutated :
        mutate turn.actor.program turn.rolled.dice = (.ok program, dice))
      (inherits : Codon.Inherits turn.actor.program program)
      (born :
        child =
          Creature.born (turn.store.allocate turn.issued).1 turn.target
            program) :
      Effect turn .reproduce
        { turn with
          world := turn.world.setOccupant turn.target (some child.handle)
          store :=
            (turn.store.allocate turn.issued).2.1.set child.handle child
          issued := (turn.store.allocate turn.issued).2.2
          dice := dice
          tally := turn.tally.merge { Tally.zero with births := 1 }
          journal :=
            .reproduced turn.actor.handle child.handle turn.target ::
              turn.journal
          actor.energy := turn.actor.energy + -reproduceCost }

variable {turn : Turn σ}

/-- An action that begins with a roll and a look at the tile rolled. -/
private theorem ends_look
    {tile : Tile} (found : turn.world.tile? turn.target = some tile)
    {body : Position → Tile → Act (Turn σ) Unit}
    {post : Unit → Turn σ → Prop} {fail : Fault → Turn σ → Prop} :
    Act.Ends
        (do
          let target ← aim
          let tile ← shared (Habitat.inspect target)
          body target tile)
        turn post fail ↔
      (body turn.target tile).Ends turn.rolled post fail := by
  have foundRolled : turn.rolled.world.tile? turn.target = some tile := found
  rw [Act.ends_bind, ends_aim, Act.ends_bind, ends_shared,
    Habitat.ends_inspect foundRolled]

section Strike

variable {victim : Creature} {target : Position}
  {post : Unit → Turn σ → Prop} {fail : Fault → Turn σ → Prop}

omit [Dice σ] in
private theorem ends_strike_weak
    (known : turn.store.get victim.handle = some victim)
    (weak : victim.energy ≤ attackDamage) :
    (strike target victim).Ends turn post fail ↔
      post ()
        { turn with
          world := turn.world.setOccupant target none
          store := (turn.store.release victim.handle).2
          tally := turn.tally.merge { Tally.zero with kills := 1 }
          journal :=
            .killed turn.actor.handle victim.handle target :: turn.journal
          actor.energy := turn.actor.energy + victim.energy } := by
  have kept := Store.holds_of_get known
  rw [strike, if_pos weak]
  simp only [Act.ends_bind, ends_gain, ends_shared, Habitat.ends_occupy,
    ends_count, Act.ends_get, Habitat.ends_note]
  exact Habitat.ends_release kept

omit [Dice σ] in
private theorem ends_strike_strong
    (known : turn.store.get victim.handle = some victim)
    (strong : attackDamage < victim.energy) :
    (strike target victim).Ends turn post fail ↔
      post ()
        { turn with
          store :=
            turn.store.set victim.handle
              { victim with energy := victim.energy - attackDamage }
          actor.energy := turn.actor.energy + attackDamage } := by
  rw [strike, if_neg (Int.not_le.2 strong)]
  simp only [Act.ends_bind, Act.ends_modify, ends_gain, Store.modify, known]

end Strike

private theorem ends_inherit {program : List Codon} {dice : σ}
    {post : List Codon → Turn σ → Prop} {fail : Fault → Turn σ → Prop}
    (mutated : mutate turn.actor.program turn.dice = (.ok program, dice)) :
    inherit.Ends turn post fail ↔
      post program { turn with dice := dice } := by
  apply Act.ends_ofStep
  rw [mutated]

section Genes

variable (onGrid : turn.world.contains turn.actor.position = true)
include onGrid

theorem succeeds_move :
    move.Succeeds turn fun _ after => Effect turn .move after := by
  rcases World.exists_tile? (contains_target onGrid) with ⟨tile, found⟩
  have seen := World.isOccupied_of_tile? found
  rw [move, Act.Succeeds, ends_look found]
  cases occupied : turn.world.occupant? turn.target with
  | some occupant =>
      rw [occupied, Option.isSome_some] at seen
      rw [if_pos seen]
      exact Effect.blocked (Or.inl rfl) occupied
  | none =>
      rw [occupied, Option.isSome_none] at seen
      rcases World.exists_tile? onGrid with ⟨origin, foundOrigin⟩
      have foundRolled :
          turn.rolled.world.tile? turn.rolled.actor.position = some origin :=
        foundOrigin
      rw [if_neg (by rw [seen]; exact Bool.false_ne_true), Act.ends_bind,
        Act.ends_get, Act.ends_bind, ends_shared,
        Habitat.ends_inspect foundRolled]
      exact Effect.moved occupied

theorem succeeds_eat :
    eat.Succeeds turn fun _ after => Effect turn .eat after := by
  rcases World.exists_tile? (contains_target onGrid) with ⟨tile, found⟩
  have seen := World.isOccupied_of_tile? found
  rw [eat, Act.Succeeds, ends_look found]
  cases occupied : turn.world.occupant? turn.target with
  | some occupant =>
      rw [occupied, Option.isSome_some] at seen
      rw [if_pos seen]
      exact Effect.blocked (Or.inr (Or.inl rfl)) occupied
  | none =>
      rw [occupied, Option.isSome_none] at seen
      rw [if_neg (by rw [seen]; exact Bool.false_ne_true)]
      exact Effect.ate found occupied

theorem succeeds_attack :
    attack.Succeeds turn fun _ after => Effect turn .attack after := by
  rcases World.exists_tile? (contains_target onGrid) with ⟨tile, found⟩
  have seen := World.occupant?_of_tile? found
  rw [attack, Act.Succeeds, ends_look found]
  cases occupied : turn.world.occupant? turn.target with
  | none =>
      rw [occupied] at seen
      rw [← seen]
      exact Effect.missed occupied
  | some occupant =>
      rw [occupied] at seen
      rw [← seen]
      simp only [Act.ends_bind, Act.ends_get]
      cases known : turn.store.get occupant with
      | none =>
          have knownRolled : turn.rolled.store.get occupant = none := known
          rw [knownRolled]
          exact Effect.unresolved occupied known
      | some victim =>
          obtain rfl : victim.handle = occupant :=
            (Store.get_eq_some_iff.1 known).2
          have knownRolled :
              turn.rolled.store.get victim.handle = some victim := known
          rw [knownRolled]
          by_cases weak : victim.energy ≤ attackDamage
          · dsimp only
            rw [ends_strike_weak knownRolled weak]
            exact Effect.killed occupied known weak
          · have strong := Int.not_le.1 weak
            dsimp only
            rw [ends_strike_strong knownRolled strong]
            exact Effect.wounded occupied known strong

theorem succeeds_reproduce
    (admitted : Codon.checkProgram turn.actor.program = .ok ()) :
    reproduce.Succeeds turn fun _ after => Effect turn .reproduce after := by
  rw [reproduce, Act.Succeeds, Act.ends_bind, Act.ends_get]
  by_cases poor : turn.actor.energy < reproduceThreshold
  · rw [if_pos poor]
    exact Effect.tired poor
  · have able := Int.not_lt.1 poor
    rcases World.exists_tile? (contains_target onGrid) with ⟨tile, found⟩
    have seen := World.isOccupied_of_tile? found
    rw [if_neg poor, ends_look found]
    cases occupied : turn.world.occupant? turn.target with
    | some occupant =>
        rw [occupied, Option.isSome_some] at seen
        rw [if_pos seen]
        exact Effect.blocked (Or.inr (Or.inr ⟨rfl, able⟩)) occupied
    | none =>
        rw [occupied, Option.isSome_none] at seen
        rcases Codon.checkProgram_eq_ok_iff.1 admitted with ⟨nonempty, -, -⟩
        obtain ⟨program, dice, mutated, inherits⟩ :=
          mutate_inherits nonempty turn.rolled.dice
        rw [if_neg (by rw [seen]; exact Bool.false_ne_true), Act.ends_bind,
          ends_inherit mutated, Act.ends_bind, ends_shared,
          Habitat.ends_spawn (inherits.checkProgram admitted)]
        simp only [Act.ends_bind, ends_shared, Habitat.ends_occupy, ends_gain,
          ends_count, Act.ends_get, Habitat.ends_note]
        exact Effect.bred able occupied mutated inherits rfl

end Genes

end Turn

end Vivarium
