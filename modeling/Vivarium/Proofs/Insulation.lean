import Vivarium.Proofs.Abreast
import Vivarium.Proofs.Sampling

/-!
# Turns that look alike from near

What a creature does in its turn depends on nothing but itself, its rolls and
its vicinity. Whatever a gene does in one of two turns abreast it does in the
other, and so does a whole program with the upkeep; and it reaches nothing
that lies further away.
-/

namespace Vivarium

namespace Turn

variable {σ : Type}

namespace Abreast

variable {first second left right left' right' : Turn σ}
  {position : Position} {tile : Tile} {gene : Gene} {rest : List Codon}

/-! ## The same gene on both sides -/

section Genes

variable [Dice σ] (abreast : Abreast first second left right)
  (ranges : first.Ranges left rest)
include abreast

private theorem target_eq : right.target = left.target := by
  simp only [target, World.neighbor, abreast.actor, abreast.dice,
    abreast.extent]

theorem rolled : Abreast first second left.rolled right.rolled :=
  { abreast with
    dice := by simp only [Turn.rolled, abreast.actor, abreast.dice] }

include ranges

omit [Dice σ] in
/-- The registers read the same. -/
private theorem readings_eq {reading : Tile → Int}
    (alike : ∀ tile tile', tile'.food = tile.food →
      tile'.isOccupied = tile.isOccupied → reading tile' = reading tile) :
    right.readings reading = left.readings reading := by
  have views : ∀ direction,
      right.view reading direction = left.view reading direction := by
    intro direction
    have onGrid :=
      World.contains_neighbor ranges.follows.inOrder.onGrid direction
    obtain ⟨tile, found⟩ := World.exists_tile? onGrid
    obtain ⟨tile', found', food, occupied⟩ :=
      abreast.exists_tile (ranges.near_neighbor direction) found
    have place : right.world.neighbor right.actor.position direction.offset =
        left.world.neighbor left.actor.position direction.offset := by
      simp only [World.neighbor, abreast.actor, abreast.extent]
    simp only [view, place, found, found', Option.elim_some]
    rw [alike tile tile' food occupied]
  simp only [readings, views]

private theorem reaches_iff :
    right.Reaches gene position ↔ left.Reaches gene position := by
  have free := abreast.unoccupied_iff ranges.near_target
  rw [Reaches, Reaches, abreast.target_eq, free, abreast.actor]

/-- Within their reach two effects have to be alike; beyond it nothing has
changed. -/
private theorem of_effects (rightInOrder : right.InOrder)
    (effect : Effect left gene left') (effect' : Effect right gene right')
    (actor : right'.actor = left'.actor) (dice : right'.dice = left'.dice)
    (events : ∃ event, left'.tally = left.tally.merge event ∧
      right'.tally = right.tally.merge event)
    (births : ∃ births, left'.issued = left.issued + births ∧
      right'.issued = right.issued + births)
    (spots : ∀ position, left.Reaches gene position →
      Option.Rel (Spot.Twin first.issued second.issued)
        (left'.spot? position) (right'.spot? position)) :
    Abreast first second left' right' where
  actor := actor
  dice := dice
  extent := by
    rw [effect.extent_eq, effect'.extent_eq, abreast.extent]
  events := by
    rcases events with ⟨event, more, more'⟩
    exact abreast.events_merge more more'
  births := by
    rcases abreast.births with ⟨before, same, same'⟩
    rcases births with ⟨further, more, more'⟩
    exact ⟨before + further, by omega, by omega⟩
  spots := by
    intro position near
    by_cases reached : left.Reaches gene position
    · exact spots position reached
    · have reached' : ¬ right.Reaches gene position := by
        rw [abreast.reaches_iff ranges]
        exact reached
      rw [effect.spot?_eq ranges.follows.inOrder reached,
        effect'.spot?_eq rightInOrder reached']
      exact abreast.spots position near

/-- All genes but a move reach no further than the tile that is rolled. -/
private theorem of_target (rightInOrder : right.InOrder)
    (effect : Effect left gene left') (effect' : Effect right gene right')
    (still : gene ≠ .move) (actor : right'.actor = left'.actor)
    (dice : right'.dice = left'.dice)
    (events : ∃ event, left'.tally = left.tally.merge event ∧
      right'.tally = right.tally.merge event)
    (births : ∃ births, left'.issued = left.issued + births ∧
      right'.issued = right.issued + births)
    (spot : Option.Rel (Spot.Twin first.issued second.issued)
      (left'.spot? left.target) (right'.spot? left.target)) :
    Abreast first second left' right' := by
  refine abreast.of_effects ranges rightInOrder effect effect' actor dice
    events births ?_
  rintro position (rfl | ⟨moves, -, -⟩)
  · exact spot
  · exact absurd moves still

omit [Dice σ] in
/-- The actor means the same on both sides. -/
private theorem actor_twin (rightInOrder : right.InOrder) :
    Handle.Twin first.issued second.issued left.actor.handle
      right.actor.handle := by
  have home := ranges.follows.inOrder.occupant?_position
  have home' := rightInOrder.occupant?_position
  have occupants := abreast.occupants ranges.near_position
  rw [abreast.actor] at home'
  rw [home, home'] at occupants
  rw [abreast.actor]
  obtain ⟨_, same, twin⟩ := exists_of_rel occupants
  cases same
  exact twin

private theorem free_target (free : left.world.occupant? left.target = none) :
    right.world.occupant? right.target = none := by
  rw [abreast.target_eq, abreast.unoccupied_iff ranges.near_target, free]

theorem blocked (needy : gene = .move ∨ gene = .eat ∨
      gene = .reproduce ∧ reproduceThreshold ≤ left.actor.energy)
    {occupant : Handle}
    (marked : left.world.occupant? left.target = some occupant) :
    ∃ right', Effect right gene right' ∧
      Abreast first second left.rolled right' := by
  obtain ⟨occupant', marked', -⟩ :=
    abreast.occupied ranges.near_target marked
  rw [← abreast.target_eq] at marked'
  rw [← abreast.actor] at needy
  exact ⟨_, .blocked needy marked', abreast.rolled⟩

variable (rightInOrder : right.InOrder)
include rightInOrder

theorem move (effect : Effect left .move left') :
    ∃ right', Effect right .move right' ∧
      Abreast first second left' right' := by
  have inOrder := ranges.follows.inOrder
  cases effect with
  | blocked needy marked =>
      exact abreast.blocked ranges needy marked
  | moved free =>
      have free' := abreast.free_target ranges free
      have effect := Effect.moved free
      have effect' := Effect.moved free'
      have does := effect.does inOrder
      have does' := effect'.does rightInOrder
      simp only [Does, free] at does
      simp only [Does, free'] at does'
      obtain ⟨-, -, origin, target⟩ := does
      obtain ⟨-, -, origin', target'⟩ := does'
      refine ⟨_, effect', abreast.of_effects ranges rightInOrder effect
        effect' ?_ abreast.rolled.dice (exists_no_event left right)
        ⟨0, rfl, rfl⟩ ?_⟩
      · simp only [abreast.target_eq, Turn.rolled, abreast.actor]
      · have place := congrArg Creature.position abreast.actor
        have out := inOrder.consistent.get_actor
        have out' := rightInOrder.consistent.get_actor
        obtain ⟨home, foundHome⟩ := World.exists_tile? inOrder.onGrid
        obtain ⟨tile, found⟩ :=
          World.exists_tile? (contains_target inOrder.onGrid)
        rintro position (rfl | ⟨-, -, rfl⟩)
        · refine abreast.hosted ranges.near_target found abreast.target_eq
            target target' (.some (abreast.actor_twin ranges rightInOrder)) ?_
          -- the mark is that of the actor, who is out of the store
          simp only [Option.bind_some, Turn.rolled, out, out']
          exact .none
        · exact abreast.vacated ranges.near_position foundHome place origin
            origin'

theorem eat (effect : Effect left .eat left') :
    ∃ right', Effect right .eat right' ∧
      Abreast first second left' right' := by
  cases effect with
  | blocked needy marked =>
      exact abreast.blocked ranges needy marked
  | @ate tile found free =>
      have free' := abreast.free_target ranges free
      obtain ⟨tile', found', food, -⟩ :=
        abreast.exists_tile ranges.near_target found
      rw [← abreast.target_eq] at found'
      have effect := Effect.ate found free
      have effect' := Effect.ate found' free'
      refine ⟨_, effect', abreast.of_target ranges rightInOrder effect
        effect' (by decide) ?_ abreast.rolled.dice
        (exists_no_event left right) ⟨0, rfl, rfl⟩ ?_⟩
      · simp only [Turn.rolled, abreast.actor, food]
      · have vacant := World.occupant?_of_tile? found
        have vacant' := World.occupant?_of_tile? found'
        rw [free] at vacant
        rw [free'] at vacant'
        have bitten := World.tile?_update_self found fun tile' =>
          { tile' with food := tile'.food + -min eatQuota tile.food }
        have bitten' := World.tile?_update_self found' fun tile =>
          { tile with food := tile.food + -min eatQuota tile'.food }
        refine spot_of_tiles abreast.target_eq bitten bitten' ?_ ?_ ?_
        · simp only [food]
        · rw [← vacant, ← vacant']
          exact .none
        · rw [← vacant, ← vacant']
          exact .none

omit rightInOrder in
/-- Whoever is struck on one side is struck on the other. -/
theorem victim {victim : Creature}
    (marked : left.world.occupant? left.target = some victim.handle)
    (known : left.store.get victim.handle = some victim) :
    ∃ victim' : Creature,
      right.world.occupant? right.target = some victim'.handle ∧
        right.store.get victim'.handle = some victim' ∧
        Handle.Twin first.issued second.issued victim.handle
          victim'.handle ∧
        victim.Twin victim' := by
  obtain ⟨occupant', marked', twin, dwellers⟩ :=
    abreast.occupied ranges.near_target marked
  rw [known] at dwellers
  obtain ⟨victim', known', alike⟩ := exists_of_rel dwellers
  obtain rfl : victim'.handle = occupant' :=
    (Store.get_eq_some_iff.1 known').2
  rw [← abreast.target_eq] at marked'
  exact ⟨victim', marked', known', twin, alike⟩

theorem attack (effect : Effect left .attack left') :
    ∃ right', Effect right .attack right' ∧
      Abreast first second left' right' := by
  have inOrder := ranges.follows.inOrder
  obtain ⟨tile, found⟩ :=
    World.exists_tile? (contains_target inOrder.onGrid)
  cases effect with
  | blocked needy marked =>
      simp at needy
  | missed free =>
      have free' := abreast.free_target ranges free
      exact ⟨_, .missed free', abreast.rolled⟩
  | unresolved marked unknown =>
      obtain ⟨occupant', marked', -, dwellers⟩ :=
        abreast.occupied ranges.near_target marked
      rw [← abreast.target_eq] at marked'
      rw [unknown] at dwellers
      have unknown' := eq_none_of_rel dwellers
      exact ⟨_, .unresolved marked' unknown', { abreast.rolled with }⟩
  | @wounded victim marked known strong =>
      obtain ⟨victim', marked', known', twin, alike⟩ :=
        abreast.victim ranges marked known
      have strong' : attackDamage < victim'.energy := by
        rw [alike.energy]
        exact strong
      have effect := Effect.wounded marked known strong
      have effect' := Effect.wounded marked' known' strong'
      refine ⟨_, effect', abreast.of_target ranges rightInOrder effect
        effect' (by decide) ?_ abreast.rolled.dice
        (exists_no_event left right) ⟨0, rfl, rfl⟩ ?_⟩
      · simp only [Turn.rolled, abreast.actor]
      · obtain ⟨tile', found', food, -⟩ :=
          abreast.exists_tile ranges.near_target found
        rw [← abreast.target_eq] at found'
        rw [World.occupant?_of_tile? found] at marked
        rw [World.occupant?_of_tile? found'] at marked'
        refine spot_of_tiles abreast.target_eq found found' food ?_ ?_
        · rw [marked, marked']
          exact .some twin
        · have bound := Store.lt_count_of_get known
          have bound' := Store.lt_count_of_get known'
          simp only [marked, marked', Option.bind_some,
            Store.get_set bound, Store.get_set bound']
          exact .some (alike.weaken attackDamage)
  | @killed victim marked known weak =>
      obtain ⟨victim', marked', known', twin, alike⟩ :=
        abreast.victim ranges marked known
      have weak' : victim'.energy ≤ attackDamage := by
        rw [alike.energy]
        exact weak
      have effect := Effect.killed marked known weak
      have effect' := Effect.killed marked' known' weak'
      refine ⟨_, effect', abreast.of_target ranges rightInOrder effect
        effect' (by decide) ?_ abreast.rolled.dice ⟨_, rfl, rfl⟩
        ⟨0, rfl, rfl⟩ ?_⟩
      · simp only [Turn.rolled, abreast.actor, alike.energy]
      · exact abreast.vacated ranges.near_target found abreast.target_eq
          World.tile?_setOccupant_self World.tile?_setOccupant_self

omit ranges rightInOrder in
theorem newborns {program : List Codon} {child child' : Creature}
    (born : child =
      Creature.born (left.store.allocate left.issued).1 left.target program)
    (born' : child' =
      Creature.born (right.store.allocate right.issued).1 right.target
        program) :
    Handle.Twin first.issued second.issued child.handle child'.handle ∧
      child.Twin child' := by
  rcases abreast.births with ⟨births, same, same'⟩
  rw [abreast.target_eq] at born'
  subst born born'
  constructor
  · exact .of_generation ((Store.generation_allocate _ _).trans same)
      ((Store.generation_allocate _ _).trans same')
  · exact Creature.twin_born _ _ _ _

theorem reproduce (effect : Effect left .reproduce left') :
    ∃ right', Effect right .reproduce right' ∧
      Abreast first second left' right' := by
  have inOrder := ranges.follows.inOrder
  cases effect with
  | blocked needy marked =>
      exact abreast.blocked ranges needy marked
  | tired poor =>
      have poor' : right.actor.energy < reproduceThreshold := by
        rw [abreast.actor]
        exact poor
      exact ⟨_, .tired poor', abreast⟩
  | @bred program dice child able free mutated inherits born =>
      have free' := abreast.free_target ranges free
      -- the same program and the same dice, so the same mutation
      have able' := able
      have mutated' := mutated
      have inherits' := inherits
      rw [← abreast.actor] at able' inherits'
      rw [← abreast.actor, ← abreast.rolled.dice] at mutated'
      obtain ⟨child', born'⟩ : ∃ child',
          child' = Creature.born (right.store.allocate right.issued).1
            right.target program := ⟨_, rfl⟩
      obtain ⟨twin, alike⟩ := abreast.newborns born born'
      have known := inOrder.consistent.get_spawn_self
        (congrArg Creature.handle born)
      have known' := rightInOrder.consistent.get_spawn_self
        (congrArg Creature.handle born')
      have effect := Effect.bred able free mutated inherits born
      have effect' := Effect.bred able' free' mutated' inherits' born'
      refine ⟨_, effect', abreast.of_target ranges rightInOrder effect
        effect' (by decide) ?_ rfl ⟨_, rfl, rfl⟩ ⟨1, ?_, ?_⟩ ?_⟩
      · simp only [abreast.actor]
      · exact Store.issued_allocate _ _
      · exact Store.issued_allocate _ _
      · obtain ⟨tile, found⟩ :=
          World.exists_tile? (contains_target inOrder.onGrid)
        refine abreast.hosted ranges.near_target found abreast.target_eq
          World.tile?_setOccupant_self World.tile?_setOccupant_self
          (.some twin) ?_
        rw [Option.bind_some, Option.bind_some, known, known']
        exact .some alike

/-- Whatever a gene does on one side, it does on the other. -/
theorem step (effect : Effect left gene left') :
    ∃ right', Effect right gene right' ∧
      Abreast first second left' right' := by
  cases gene with
  | nop =>
      cases effect with
      | idle =>
          exact ⟨right, .idle, abreast⟩
      | blocked needy marked =>
          simp at needy
  | lookForFood =>
      cases effect with
      | foraged =>
          have same :
              right.readings foodReading = left.readings foodReading :=
            abreast.readings_eq ranges fun _ _ food _ => congrArg saturate food
          exact ⟨_, .foraged,
            { abreast with actor := by rw [same, abreast.actor] }⟩
      | blocked needy marked =>
          simp at needy
  | lookForCreature =>
      cases effect with
      | scouted =>
          have same :
              right.readings creatureReading =
                left.readings creatureReading :=
            abreast.readings_eq ranges fun _ _ _ occupied => by
              simp only [creatureReading, occupied]
          exact ⟨_, .scouted,
            { abreast with actor := by rw [same, abreast.actor] }⟩
      | blocked needy marked =>
          simp at needy
  | move =>
      exact abreast.move ranges rightInOrder effect
  | eat =>
      exact abreast.eat ranges rightInOrder effect
  | attack =>
      exact abreast.attack ranges rightInOrder effect
  | reproduce =>
      exact abreast.reproduce ranges rightInOrder effect
  | invert =>
      cases effect with
      | inverted =>
          exact ⟨_, .inverted,
            { abreast with actor := by rw [abreast.actor] }⟩
      | blocked needy marked =>
          simp at needy

end Genes

/-! ## Whole turns -/

section Turns

variable [Dice σ]

/-- The program of the actor goes the same way on both sides. -/
theorem succeeds_runProgram (inOrder : first.InOrder)
    (secondInOrder : second.InOrder)
    (abreast : Abreast first second first second) :
    runProgram.Succeeds first fun _ left =>
      first.Ranges left [] ∧ ∃ right,
        runProgram.apply second = (.ok (), right) ∧
          Abreast first second left right := by
  let program := first.actor.program
  -- what is left of the program makes up for what has been carried out
  let kept (rest : List Codon) (left : Turn σ) : Prop :=
    first.Ranges left rest ∧ ∃ right, right.InOrder ∧
      (program.forM carryOut).apply second =
        (rest.forM carryOut).apply right ∧
      Abreast first second left right
  have step : ∀ codon rest left, kept (codon :: rest) left →
      (carryOut codon).Succeeds left fun _ left' => kept rest left' := by
    rintro codon rest left ⟨ranges, right, rightInOrder, same, abreast⟩
    obtain ⟨gene, rfl⟩ := ranges.exists_gene inOrder
    refine (succeeds_carryOut ranges.follows.inOrder rfl).mono ?_
    intro _ left' effect
    obtain ⟨right', effect', abreast'⟩ :=
      abreast.step ranges rightInOrder effect
    rw [Act.apply_forM_cons (effect'.apply_carryOut rightInOrder)] at same
    exact ⟨ranges.step effect, right', effect'.inOrder rightInOrder, same,
      abreast'⟩
  have ran : (program.forM carryOut).Succeeds first fun _ left =>
      kept [] left :=
    Act.succeeds_forM_rest kept step
      ⟨inOrder.ranges, second, secondInOrder, rfl, abreast⟩
  rw [Act.Succeeds, ends_runProgram inOrder]
  refine Act.Succeeds.mono ran ?_
  rintro _ left ⟨ranges, right, -, same, abreast'⟩
  have sameProgram : second.actor.program = program := by
    rw [abreast.actor]
  rw [← sameProgram, ← apply_runProgram secondInOrder] at same
  exact ⟨ranges, right, same, abreast'⟩

omit [Dice σ] in
/-- The upkeep of two turns has to be alike at home; elsewhere nothing has
changed. -/
private theorem of_upkeep (abreast : Abreast first second left right)
    (ranges : first.Ranges left rest) (rightInOrder : right.InOrder)
    {life life' : Life} (upkeep : Upkeep left life left')
    (upkeep' : Upkeep right life' right')
    (actor : right'.actor = left'.actor) (dice : right'.dice = left'.dice)
    (events : ∃ event, left'.tally = left.tally.merge event ∧
      right'.tally = right.tally.merge event)
    (births : left'.issued = left.issued ∧ right'.issued = right.issued)
    (home : Option.Rel (Spot.Twin first.issued second.issued)
      (left'.spot? left.actor.position) (right'.spot? left.actor.position)) :
    Abreast first second left' right' where
  actor := actor
  dice := dice
  extent := by
    rw [upkeep.extent_eq, upkeep'.extent_eq, abreast.extent]
  events := by
    rcases events with ⟨event, more, more'⟩
    exact abreast.events_merge more more'
  births := by
    rw [births.1, births.2]
    exact abreast.births
  spots := by
    intro position near
    by_cases same : position = left.actor.position
    · rw [same]
      exact home
    · have same' : position ≠ right.actor.position := by
        rw [abreast.actor]
        exact same
      rw [upkeep.spot?_eq ranges.follows.inOrder same,
        upkeep'.spot?_eq rightInOrder same']
      exact abreast.spots position near

omit [Dice σ] in
/-- The upkeep is the same on both sides. -/
theorem upkeep (abreast : Abreast first second left right)
    (ranges : first.Ranges left rest) (rightInOrder : right.InOrder)
    {life life' : Life} (upkeep : Upkeep left life left')
    (upkeep' : Upkeep right life' right') :
    life' = life ∧ Abreast first second left' right' := by
  have near := ranges.near_position
  have place := congrArg Creature.position abreast.actor
  obtain ⟨tile, found⟩ :=
    World.exists_tile? ranges.follows.inOrder.onGrid
  obtain ⟨tile', found', food, -⟩ := abreast.exists_tile near found
  rw [← place] at found'
  have rules := abreast.of_upkeep ranges rightInOrder upkeep upkeep'
  cases upkeep with
  | paid solvent =>
      cases upkeep' with
      | starved broke' =>
          rw [abreast.actor] at broke'
          omega
      | paid solvent' =>
          refine ⟨rfl, rules ?_ abreast.dice (exists_no_event left right)
            ⟨rfl, rfl⟩ ?_⟩
          · simp only [abreast.actor]
          · have occupants := abreast.occupants near
            have dwellers := abreast.dwellers near
            rw [← place, World.occupant?_of_tile? found', place,
              World.occupant?_of_tile? found] at occupants dwellers
            refine spot_of_tiles place (World.tile?_update_self found _)
              (World.tile?_update_self found' _) ?_ occupants dwellers
            simp only [abreast.actor, food]
  | starved broke =>
      cases upkeep' with
      | paid solvent' =>
          rw [abreast.actor] at solvent'
          omega
      | starved broke' =>
          refine ⟨rfl, rules ?_ abreast.dice ⟨_, rfl, rfl⟩ ⟨rfl, rfl⟩ ?_⟩
          · simp only [abreast.actor]
          · have fed := World.tile?_update_self found fun tile =>
              { tile with food := tile.food + left.actor.energy }
            have fed' := World.tile?_update_self found' fun tile =>
              { tile with food := tile.food + right.actor.energy }
            refine spot_of_tiles place
              (World.tile?_setOccupant_self.trans (congrArg _ fed))
              (World.tile?_setOccupant_self.trans (congrArg _ fed'))
              ?_ .none .none
            simp only [Tile.hosting, abreast.actor, food]

/-- Whole turns that begin abreast end abreast. -/
theorem play (inOrder : first.InOrder) (secondInOrder : second.InOrder)
    (abreast : Abreast first second first second) {life : Life}
    (played : Played first life left) :
    ∃ right, play.apply second = (.ok life, right) ∧
      Abreast first second left right := by
  obtain ⟨life', right, went', played'⟩ :=
    (succeeds_play secondInOrder).exists_apply
  have sameActor := abreast.actor
  cases played with
  | faded spent =>
      cases played' with
      | faded spent' =>
          exact ⟨second, went', abreast⟩
      | ended lively' _ _ _ =>
          rw [sameActor] at lively'
          exact absurd spent lively'
  | ended lively ran follows upkeep =>
      cases played' with
      | faded spent' =>
          rw [sameActor] at spent'
          exact absurd spent' lively
      | ended lively' ran' follows' upkeep' =>
          obtain ⟨ranges, middle, again, abreast'⟩ :=
            (abreast.succeeds_runProgram inOrder secondInOrder).of_apply ran
          rw [again] at ran'
          cases ran'
          obtain ⟨rfl, abreast''⟩ :=
            abreast'.upkeep ranges follows'.inOrder upkeep upkeep'
          exact ⟨right, went', abreast''⟩

end Turns

end Abreast

/-! ## Turns that look alike -/

/-- Another turn of the same creature, on a grid of the same size and with the
same vicinity. -/
structure LooksLike {σ τ : Type} (turn : Turn σ) (other : Turn τ) :
    Prop where
  actor : other.actor = turn.actor
  extent : other.world.extent = turn.world.extent
  spots : ∀ position, turn.Near position →
    other.spot? position = turn.spot? position

/-- A creature that does not move sees no further than its neighbours. -/
private theorem LooksLike.of_still {σ τ : Type} {turn : Turn σ} {other : Turn τ}
    (still : turn.actor.program.count (.gene .move) = 0)
    (actor : other.actor = turn.actor)
    (extent : other.world.extent = turn.world.extent)
    (home : other.spot? turn.actor.position =
      turn.spot? turn.actor.position)
    (around : ∀ direction : Direction,
      other.spot?
          (turn.world.neighbor turn.actor.position direction.offset) =
        turn.spot?
          (turn.world.neighbor turn.actor.position direction.offset)) :
    turn.LooksLike other where
  actor := actor
  extent := extent
  spots := by
    intro position near
    rw [Near, still] at near
    rcases near.of_one with rfl | ⟨direction, rfl⟩
    · exact home
    · exact around direction

/-- The turn with another source of random numbers, whose rolls are remembered
from now on. -/
def recording {σ τ : Type} (turn : Turn σ) (dice : τ) : Turn (Recorded τ) :=
  { turn.toHabitat.recording dice with
    tally := turn.tally
    actor := turn.actor }

private theorem InOrder.generation_lt {turn : Turn σ} (inOrder : turn.InOrder)
    {position : Position} {handle : Handle}
    (marked : turn.world.occupant? position = some handle) :
    handle.generation < turn.issued := by
  obtain ⟨resident, present, named, -⟩ :=
    inOrder.consistent.settled.resolved marked
  rw [← named]
  exact inOrder.consistent.settled.stamped present

theorem InOrder.abreast {first second : Turn σ} (inOrder : first.InOrder)
    (secondInOrder : second.InOrder) (alike : first.LooksLike second)
    (sameDice : second.dice = first.dice) :
    Abreast first second first second where
  actor := alike.actor
  dice := sameDice
  extent := alike.extent
  events := Abreast.exists_no_event first second
  births := ⟨0, rfl, rfl⟩
  spots := by
    intro position near
    have sameSpot := alike.spots position near
    have sameOccupant : second.world.occupant? position =
        first.world.occupant? position := by
      rw [Habitat.occupant?_eq_bind, Habitat.occupant?_eq_bind, sameSpot]
    have seen := Habitat.occupant?_eq_bind first.toHabitat position
    rw [sameSpot]
    cases found : first.spot? position with
    | none =>
        exact .none
    | some spot =>
        rw [found, Option.bind_some] at seen
        refine .some ⟨rfl, ?_, rel_self Creature.twin_self _⟩
        cases marked : spot.occupant with
        | none =>
            exact .none
        | some handle =>
            rw [marked] at seen
            rw [seen] at sameOccupant
            exact .some (.former (inOrder.generation_lt seen)
              (secondInOrder.generation_lt sameOccupant))

end Turn

/-! ## In any run -/

namespace Engine

variable {σ τ : Type} [Dice σ] [Dice τ] {engine : Engine σ}

/-- Whatever is rolled in a turn of some round, it changes nothing that is not
near the actor. In any other run in which a turn looks the same to the actor,
the same rolls have the same outcome. -/
theorem turns_are_local (reachable : Reachable engine) {turn : Turn σ}
    (taken : turn ∈ engine.turns) (dice : τ) :
    ∃ life after,
      Turn.play.apply (turn.recording dice) = (.ok life, after) ∧
        (∀ position, ¬ turn.Near position →
          after.world.tile? position = turn.world.tile? position) ∧
        (∀ handle creature, ¬ turn.Near creature.position →
          (after.store.get handle = some creature ↔
            turn.store.get handle = some creature)) ∧
        ∀ {ρ : Type} [Dice ρ] {other : Engine ρ}, Reachable other →
          ∀ second ∈ other.turns, turn.LooksLike second →
            ∃ right,
              Turn.play.apply (second.recording dice) = (.ok life, right) ∧
                Turn.Abreast (turn.recording dice) (second.recording dice)
                  after right := by
  obtain ⟨-, -, -, turnInOrder, -, -⟩ :=
    exists_visit_of_mem_turns reachable.inOrder taken
  have inOrder : (turn.recording dice).InOrder := turnInOrder
  obtain ⟨life, after, went, played⟩ :=
    (Turn.succeeds_play inOrder).exists_apply
  have spares := played.spares inOrder
  obtain ⟨out, consistent⟩ := played.exists_consistent inOrder
  refine ⟨life, after, went, spares.tiles, ?_, ?_⟩
  · intro handle creature far
    exact spares.get_iff inOrder consistent far
  · intro ρ _ other reachableOther second takenOther alike
    obtain ⟨-, -, -, secondInOrder, -, -⟩ :=
      exists_visit_of_mem_turns reachableOther.inOrder takenOther
    have abreast : Turn.Abreast (turn.recording dice)
        (second.recording dice) (turn.recording dice)
        (second.recording dice) :=
      inOrder.abreast secondInOrder
        ⟨alike.actor, alike.extent, alike.spots⟩ rfl
    exact abreast.play inOrder secondInOrder played

/-- A creature reproduces on a row of five tiles, and does so all the same if
there is a stranger two tiles away. Its child then gets another handle. -/
theorem birth_beside_stranger :
    ∃ (engine other : Engine Script) (turn second : Turn Script)
      (after right : Turn (Recorded Script)),
      turn ∈ engine.turns ∧ second ∈ other.turns ∧ turn.LooksLike second ∧
        engine.store.liveCount = 1 ∧ other.store.liveCount = 2 ∧
        Turn.play.apply (turn.recording (⟨#[0], 0⟩ : Script)) =
          (.ok .alive, after) ∧
        Turn.play.apply (second.recording (⟨#[0], 0⟩ : Script)) =
          (.ok .alive, right) ∧
        after.world.occupant? ⟨1, 0⟩ = some ⟨1, 1⟩ ∧
        right.world.occupant? ⟨1, 0⟩ = some ⟨2, 2⟩ ∧
        Turn.Abreast (turn.recording (⟨#[0], 0⟩ : Script))
          (second.recording (⟨#[0], 0⟩ : Script)) after right := by
  let config := { twoTiles with width := 5, initialPopulation := 0 }
  let dice : Script := ⟨#[0], 0⟩
  let parent (start : Engine Script) :=
    ((shared (Habitat.place ⟨0, 0⟩ [.gene .reproduce] 250 .midpoint)).apply
      start).2
  let stranger (engine : Engine Script) :=
    ((shared (Habitat.place ⟨2, 0⟩ [.gene .nop] 50 .midpoint)).apply
      engine).2
  let scenes : Option (Engine Script × Turn Script × Turn Script) := do
    let start ← (make config none dice 0 "").toOption
    let turn ← (parent start).turns.head?
    let second ← (stranger (parent start)).turns.head?
    return (start, turn, second)
  have free :
      (scenes.map fun (start, _, _) =>
        (start.world.tile? ⟨0, 0⟩, (parent start).world.tile? ⟨2, 0⟩,
          (parent start).store.liveCount,
          (stranger (parent start)).store.liveCount)) =
        some (some ⟨50, none⟩, some ⟨50, none⟩, 1, 2) := by
    decide +kernel
  have looks :
      (scenes.map fun (_, turn, second) =>
        let around := fun direction : Direction =>
          turn.world.neighbor turn.actor.position direction.offset
        decide (second.actor = turn.actor ∧
          second.world.extent = turn.world.extent ∧
          turn.actor.program.count (.gene .move) = 0 ∧
          second.spot? turn.actor.position =
            turn.spot? turn.actor.position ∧
          ∀ direction ∈ Direction.all,
            second.spot? (around direction) =
              turn.spot? (around direction))) =
        some true := by
    decide +kernel
  have courses :
      (scenes.map fun (_, turn, second) =>
        let left := Turn.play.apply (turn.recording dice)
        let right := Turn.play.apply (second.recording dice)
        (left.1, left.2.world.occupant? ⟨1, 0⟩, right.1,
          right.2.world.occupant? ⟨1, 0⟩)) =
        some (.ok .alive, some ⟨1, 1⟩, .ok .alive, some ⟨2, 2⟩) := by
    decide +kernel
  obtain ⟨⟨start, turn, second⟩, met, free⟩ := Option.map_eq_some_iff.1 free
  rw [met] at looks courses
  simp only [Option.map_some, Option.some.injEq, Prod.mk.injEq]
    at free looks courses
  obtain ⟨home, beyond, single, double⟩ := free
  obtain ⟨sameActor, sameExtent, still, sameHome, sameAround⟩ :=
    of_decide_eq_true looks
  obtain ⟨alive, child, alive', child'⟩ := courses
  obtain ⟨begun, created, met⟩ := Option.bind_eq_some_iff.1 met
  obtain ⟨_, opened, met⟩ := Option.bind_eq_some_iff.1 met
  obtain ⟨_, openedSecond, met⟩ := Option.bind_eq_some_iff.1 met
  cases met
  obtain ⟨_, made⟩ :=
    exists_make_unseeded (show config.validate = .ok () from rfl) dice 0 ""
  rw [made] at created
  cases created
  have taken := List.mem_of_mem_head? opened
  have takenSecond := List.mem_of_mem_head? openedSecond
  have bytes := Sensors.inRange_midpoint
  have reachable : Reachable (parent start) :=
    (Reachable.made made).place home rfl rfl (by decide) bytes
  have reachableOther : Reachable (stranger (parent start)) :=
    reachable.place beyond rfl rfl (by decide) bytes
  have alike : turn.LooksLike second := by
    refine .of_still still sameActor sameExtent sameHome ?_
    intro direction
    exact sameAround direction (by cases direction <;> decide)
  obtain ⟨life, after, went, -, -, others⟩ :=
    turns_are_local reachable taken dice
  obtain ⟨right, wentSecond, abreast⟩ :=
    others reachableOther second takenSecond alike
  rw [went] at alive child
  rw [wentSecond] at child'
  obtain rfl : life = .alive := Except.ok.inj alive
  exact ⟨parent start, stranger (parent start), turn, second, after, right,
    taken, takenSecond, alike, single, double, went, wentSecond, child,
    child', abreast⟩

end Engine

end Vivarium
