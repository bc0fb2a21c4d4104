import Vivarium.Proofs.Extents
import Vivarium.Proofs.Schedule

/-!
# The footprint of a gene

What a gene changes and what it leaves alone: of the tiles, of the creatures in
the store and of the actor. An action that is blocked leaves nothing behind but
its roll.
-/

namespace Vivarium

variable {σ : Type} [Dice σ]

def Tile.hosting (tile : Tile) (occupant : Option Handle) : Tile :=
  { tile with occupant }

namespace World

variable {world : World} {position other : Position}
  {occupant : Option Handle}

theorem tile?_update_self {tile : Tile}
    (found : world.tile? position = some tile) (change : Tile → Tile) :
    (world.update position change).tile? position = some (change tile) := by
  rw [tile?_update, if_pos rfl, found, Option.map_some]

theorem tile?_setOccupant_self :
    (world.setOccupant position occupant).tile? position =
      (world.tile? position).map (·.hosting occupant) := by
  rw [setOccupant, tile?_update, if_pos rfl]
  rfl

theorem tile?_setOccupant_of_ne (elsewhere : other ≠ position) :
    (world.setOccupant position occupant).tile? other =
      world.tile? other := by
  rw [setOccupant, tile?_update, if_neg (Ne.symm elsewhere)]

end World

namespace Consistent

variable {world : World} {store : Store} {issued : Nat}
  {out : Option Creature} {creature : Creature}

/-- A newcomer is stored, and everybody else is stored as before. -/
theorem get_spawn (consistent : Consistent world store issued out)
    (named : creature.handle = (store.allocate issued).1)
    (handle : Handle) :
    ((store.allocate issued).2.1.set creature.handle creature).get handle =
      if handle = creature.handle then some creature
      else store.get handle := by
  have bound := consistent.lt_count_allocate
  rw [← named] at bound
  by_cases same : handle = creature.handle
  · rw [if_pos same, same]
    exact Store.get_set bound rfl
  · rw [if_neg same]
    exact consistent.get_spawn_of_ne named same

/-- A newcomer is found under its own handle. -/
theorem get_spawn_self (consistent : Consistent world store issued out)
    (named : creature.handle = (store.allocate issued).1) :
    ((store.allocate issued).2.1.set creature.handle creature).get
        creature.handle =
      some creature := by
  rw [consistent.get_spawn named, if_pos rfl]

end Consistent

namespace Turn

variable {turn after : Turn σ} {gene : Gene}

/-- The tile that is rolled is in the reach of a gene, and the tile of the
actor if it steps onto the other one. -/
def Reaches (turn : Turn σ) (gene : Gene) (position : Position) : Prop :=
  position = turn.target ∨
    gene = .move ∧ turn.world.occupant? turn.target = none ∧
      position = turn.actor.position

def Does (turn : Turn σ) (after : Turn σ) : Gene → Prop
  | .nop => after = turn
  | .lookForFood | .lookForCreature | .invert =>
    ∃ sensors : Sensors, sensors.InRange ∧
      after = { turn with actor.sensors := sensors }
  | .move =>
    match turn.world.occupant? turn.target with
    | some _ => after = turn.rolled
    | none =>
      after.actor = { turn.actor with position := turn.target } ∧
        after.store = turn.store ∧
        after.world.tile? turn.actor.position =
          (turn.world.tile? turn.actor.position).map (·.hosting none) ∧
        after.world.tile? turn.target =
          (turn.world.tile? turn.target).map
            (·.hosting (some turn.actor.handle))
  | .eat =>
    match turn.world.occupant? turn.target with
    | some _ => after = turn.rolled
    | none =>
      ∃ tile, turn.world.tile? turn.target = some tile ∧
        after.world.tile? turn.target =
          some { tile with food := tile.food - min 10 tile.food } ∧
        after.actor =
          { turn.actor with
            energy := turn.actor.energy + min 10 tile.food } ∧
        after.store = turn.store
  | .attack =>
    match turn.world.occupant? turn.target with
    | none => after = turn.rolled
    | some occupant =>
      match turn.store.get occupant with
      | none =>
        after =
          { turn.rolled with
            journal :=
              .unresolvedAttack turn.actor.handle occupant :: turn.journal }
      | some victim =>
        if victim.energy ≤ 20 then
          after.store.get occupant = none ∧
            after.world.tile? turn.target =
              (turn.world.tile? turn.target).map (·.hosting none) ∧
            after.actor =
              { turn.actor with
                energy := turn.actor.energy + victim.energy }
        else
          after.store.get occupant =
              some { victim with energy := victim.energy - 20 } ∧
            1 ≤ victim.energy - 20 ∧
            after.world = turn.world ∧
            after.actor =
              { turn.actor with energy := turn.actor.energy + 20 }
  | .reproduce =>
    if turn.actor.energy < 200 then
      after = turn
    else
      match turn.world.occupant? turn.target with
      | some _ => after = turn.rolled
      | none =>
        ∃ child : Creature, child.energy = 100 ∧
          child.sensors = ⟨128, 128, 128, 128⟩ ∧
          child.position = turn.target ∧
          turn.store.get child.handle = none ∧
          (∀ handle, after.store.get handle =
            if handle = child.handle then some child
            else turn.store.get handle) ∧
          after.world.tile? turn.target =
            (turn.world.tile? turn.target).map
              (·.hosting (some child.handle)) ∧
          after.actor =
            { turn.actor with energy := turn.actor.energy - 100 }

structure Footprint (turn : Turn σ) (gene : Gene) (after : Turn σ) :
    Prop where
  extent : after.world.extent = turn.world.extent
  tiles : ∀ position, ¬ turn.Reaches gene position →
    after.world.tile? position = turn.world.tile? position
  /-- Of the stored creatures only the one that is attacked changes, and nobody
  comes but by birth. -/
  stored : ∀ handle,
    (gene = .attack → turn.world.occupant? turn.target ≠ some handle) →
    (gene = .reproduce → handle ∈ turn.store.handles) →
      after.store.get handle = turn.store.get handle
  does : turn.Does after gene

theorem Effect.tile?_eq (effect : Effect turn gene after)
    {position : Position} (outside : ¬ turn.Reaches gene position) :
    after.world.tile? position = turn.world.tile? position := by
  have notTarget : position ≠ turn.target := fun same =>
    outside (Or.inl same)
  cases effect with
  | moved unoccupied =>
      have notOrigin : position ≠ turn.actor.position := fun same =>
        outside (Or.inr ⟨rfl, unoccupied, same⟩)
      exact (World.tile?_setOccupant_of_ne notTarget).trans
        (World.tile?_setOccupant_of_ne notOrigin)
  | ate found unoccupied =>
      exact (World.tile?_update _ _ _ _).trans
        (if_neg (Ne.symm notTarget))
  | killed | bred =>
      exact World.tile?_setOccupant_of_ne notTarget
  | _ =>
      rfl

theorem Effect.get_eq (inOrder : turn.InOrder)
    (effect : Effect turn gene after) {handle : Handle}
    (spared : gene = .attack →
      turn.world.occupant? turn.target ≠ some handle)
    (known : gene = .reproduce → handle ∈ turn.store.handles) :
    after.store.get handle = turn.store.get handle := by
  have consistent := inOrder.consistent
  cases effect with
  | wounded occupied found strong =>
      have different : handle ≠ _ := fun same =>
        spared rfl (same ▸ occupied)
      exact Store.get_set_of_ne (Store.holds_of_get found) rfl different
  | killed occupied found weak =>
      have different : handle ≠ _ := fun same =>
        spared rfl (same ▸ occupied)
      exact Store.get_release_of_ne (Store.holds_of_get found) different
  | @bred _ _ child able unoccupied mutated inherits born =>
      have named : child.handle = (turn.store.allocate turn.issued).1 :=
        congrArg Creature.handle born
      have different : handle ≠ child.handle := by
        intro same
        rcases consistent.mem_handles_iff.1 (known rfl) with
          ⟨creature, found⟩
        rw [same, named, consistent.get_allocate] at found
        cases found
      exact consistent.get_spawn_of_ne named different
  | _ =>
      rfl

/-- The tile that an actor leaves is not the one that it steps onto. -/
private theorem InOrder.target_ne (inOrder : turn.InOrder)
    (unoccupied : turn.world.occupant? turn.target = none) :
    turn.target ≠ turn.actor.position := by
  intro same
  have home : turn.world.occupant? turn.actor.position =
      some turn.actor.handle :=
    inOrder.consistent.settled.marked inOrder.consistent.actor_present
  rw [← same, unoccupied] at home
  cases home

theorem Effect.does (inOrder : turn.InOrder)
    (effect : Effect turn gene after) : turn.Does after gene := by
  cases effect with
  | idle =>
      exact rfl
  | foraged =>
      exact ⟨_, inRange_readings foodReading_byte, rfl⟩
  | scouted =>
      exact ⟨_, inRange_readings creatureReading_byte, rfl⟩
  | inverted =>
      exact ⟨_, Sensors.inRange_mirrored _, rfl⟩
  | blocked needy occupied =>
      rcases needy with rfl | rfl | ⟨rfl, able⟩
      · rw [Does, occupied]
      · rw [Does, occupied]
      · have rich : ¬ turn.actor.energy < 200 := Int.not_lt.2 able
        rw [Does, if_neg rich, occupied]
  | moved unoccupied =>
      have elsewhere := inOrder.target_ne unoccupied
      rw [Does, unoccupied]
      refine ⟨rfl, rfl, ?_, ?_⟩
      · exact (World.tile?_setOccupant_of_ne (Ne.symm elsewhere)).trans
          World.tile?_setOccupant_self
      · exact World.tile?_setOccupant_self.trans
          (congrArg _ (World.tile?_setOccupant_of_ne elsewhere))
  | @ate tile found unoccupied =>
      rw [Does, unoccupied]
      refine ⟨tile, found, ?_, rfl, rfl⟩
      refine (World.tile?_update _ _ _ _).trans ?_
      rw [if_pos rfl, found]
      rfl
  | missed unoccupied =>
      rw [Does, unoccupied]
  | unresolved occupied unknown =>
      rw [Does, occupied]
      dsimp only
      rw [unknown]
  | @wounded victim occupied known strong =>
      have survives : ¬ victim.energy ≤ 20 := Int.not_le.2 strong
      have bound := Store.lt_count_of_get known
      rw [Does, occupied]
      dsimp only
      rw [known]
      dsimp only
      rw [if_neg survives]
      refine ⟨Store.get_set bound rfl, ?_, rfl, rfl⟩
      omega
  | @killed victim occupied known weak =>
      have dies : victim.energy ≤ 20 := weak
      have kept := Store.holds_of_get known
      rw [Does, occupied]
      dsimp only
      rw [known]
      dsimp only
      rw [if_pos dies]
      exact ⟨Store.get_release_self kept, World.tile?_setOccupant_self,
        rfl⟩
  | tired poor =>
      have poor : turn.actor.energy < 200 := poor
      rw [Does, if_pos poor]
  | bred able unoccupied mutated inherits born =>
      have rich : ¬ turn.actor.energy < 200 := Int.not_lt.2 able
      have named := congrArg Creature.handle born
      have nobody := inOrder.consistent.get_allocate
      rw [Does, if_neg rich, unoccupied]
      subst born
      exact ⟨_, rfl, rfl, rfl, nobody, inOrder.consistent.get_spawn named,
        World.tile?_setOccupant_self, rfl⟩

/-- From a state that is in order a gene does what it should and nothing
else. -/
theorem Effect.footprint (inOrder : turn.InOrder)
    (effect : Effect turn gene after) : turn.Footprint gene after where
  extent := effect.extent_eq
  tiles _ outside := effect.tile?_eq outside
  stored _ spared known := effect.get_eq inOrder spared known
  does := effect.does inOrder

end Turn

/-! ## In any run -/

namespace Engine

variable {engine : Engine σ}

/-- Whatever gene is carried out where a gene of some round is carried out, and
whatever is rolled. -/
theorem genes_keep_footprint (reachable : Reachable engine) {turn : Turn σ}
    (taken : turn ∈ engine.turns) {entry : Codon × Turn σ}
    (listed : entry ∈ turn.genes) (gene : Gene) (dice : σ) :
    ∃ after, (Turn.perform gene).apply { entry.2 with dice } =
        (.ok (), after) ∧
      Turn.Footprint { entry.2 with dice } gene after := by
  obtain ⟨visit, -, -, turnInOrder, -, -⟩ :=
    exists_visit_of_mem_turns reachable.inOrder taken
  obtain ⟨-, follows⟩ := Turn.follows_of_mem_genes turnInOrder listed
  have inOrder : Turn.InOrder { entry.2 with dice } := follows.inOrder
  obtain ⟨_, after, applied, effect⟩ :=
    (Turn.succeeds_perform inOrder gene).exists_apply
  exact ⟨after, applied, effect.footprint inOrder⟩

/-- An attack on a neighbour who survives it. -/
theorem attack_keeps_footprint :
    ∃ (engine : Engine Script) (turn : Turn Script)
      (entry : Codon × Turn Script) (after : Turn Script),
      turn ∈ engine.turns ∧ entry ∈ turn.genes ∧
        (entry.2.store.get ⟨1, 1⟩).map Creature.energy = some 30 ∧
        (after.store.get ⟨1, 1⟩).map Creature.energy = some 10 ∧
        Turn.Footprint entry.2 .attack after := by
  have figures :
      ((couple (⟨#[0], 0⟩ : Script) ([.gene .attack], 50)
          ([.gene .nop], 30)).bind fun engine =>
        engine.turns.head?.bind fun turn =>
          turn.genes.head?.map fun entry =>
            (entry.2.world.occupant? entry.2.target,
              (entry.2.store.get ⟨1, 1⟩).map Creature.energy)) =
        some (some ⟨1, 1⟩, some 30) := by
    decide +kernel
  obtain ⟨engine, paired, figures⟩ := Option.bind_eq_some_iff.1 figures
  obtain ⟨turn, first, figures⟩ := Option.bind_eq_some_iff.1 figures
  obtain ⟨entry, start, told⟩ := Option.map_eq_some_iff.1 figures
  rcases Prod.mk.inj told with ⟨occupied, energy⟩
  have taken := List.mem_of_mem_head? first
  have listed := List.mem_of_mem_head? start
  obtain ⟨after, -, footprint⟩ :=
    genes_keep_footprint (reachable_of_couple paired (by decide) (by decide))
      taken listed .attack entry.2.dice
  refine ⟨engine, turn, entry, after, taken, listed, energy, ?_, footprint⟩
  obtain ⟨victim, known, strength⟩ := Option.map_eq_some_iff.1 energy
  have does : entry.2.Does after .attack := footprint.does
  rw [Turn.Does, occupied] at does
  dsimp only at does
  rw [known] at does
  dsimp only at does
  rw [strength, if_neg (by decide)] at does
  rw [does.1]
  rfl

end Engine

end Vivarium
