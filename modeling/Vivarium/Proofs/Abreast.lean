import Vivarium.Proofs.Vicinity

/-!
# Two turns abreast

Two turns of the same creature, in habitats that it cannot tell from each
other: they agree on its vicinity, whatever they hold elsewhere. Only the
handles of newborns may differ, since slots and stamps come from the whole
habitat.
-/

namespace Vivarium

section Options

variable {α β : Type} {related : α → β → Prop} {option : Option β}

theorem eq_none_of_rel (alike : Option.Rel related none option) :
    option = none := by
  cases alike with
  | none => rfl

theorem exists_of_rel {value : α}
    (alike : Option.Rel related (some value) option) :
    ∃ value', option = some value' ∧ related value value' := by
  cases alike with
  | some alike => exact ⟨_, rfl, alike⟩

theorem rel_self {related : α → α → Prop}
    (alike : ∀ value, related value value) (option : Option α) :
    Option.Rel related option option := by
  cases option with
  | none => exact .none
  | some value => exact .some (alike value)

end Options

theorem Tally.merge_assoc (first second third : Tally) :
    (first.merge second).merge third =
      first.merge (second.merge third) := by
  simp only [Tally.merge, Int.add_assoc]

theorem Tally.merge_zero (tally : Tally) :
    tally.merge .zero = tally := by
  simp only [Tally.merge, Tally.zero, Int.add_zero]

/-! ## What is seen of a tile -/

/-- What is on a tile, with the creature that its occupant leads to. -/
structure Spot where
  food : Int
  occupant : Option Handle
  dweller : Option Creature
deriving DecidableEq

/-- Two handles with the same meaning, after two courses of events that began
at given counts of stamps: the handle of somebody who was there before, or
those of the newborns that came at the same place in the order of births. -/
inductive Handle.Twin (issued issued' : Nat) : Handle → Handle → Prop where
  | former {handle : Handle} (old : handle.generation < issued)
      (old' : handle.generation < issued') :
      Twin issued issued' handle handle
  | newborn {slot slot' : Nat} (order : Nat) :
      Twin issued issued' ⟨slot, issued + order⟩ ⟨slot', issued' + order⟩

theorem Handle.Twin.of_generation {issued issued' order : Nat}
    {handle handle' : Handle} (stamp : handle.generation = issued + order)
    (stamp' : handle'.generation = issued' + order) :
    Handle.Twin issued issued' handle handle' := by
  rcases handle with ⟨slot, generation⟩
  rcases handle' with ⟨slot', generation'⟩
  subst stamp stamp'
  exact .newborn order

/-- Two creatures that differ in their handles at most. -/
def Creature.Twin (creature creature' : Creature) : Prop :=
  creature' = { creature with handle := creature'.handle }

namespace Creature

variable {creature creature' : Creature}

theorem twin_self (creature : Creature) : creature.Twin creature :=
  rfl

theorem Twin.energy (twin : creature.Twin creature') :
    creature'.energy = creature.energy := by
  rw [twin]

theorem Twin.weaken (twin : creature.Twin creature') (loss : Int) :
    Twin { creature with energy := creature.energy - loss }
      { creature' with energy := creature'.energy - loss } := by
  rw [Twin, twin]

theorem twin_born (handle handle' : Handle) (position : Position)
    (program : List Codon) :
    Twin (born handle position program) (born handle' position program) :=
  rfl

end Creature

/-- Two tiles that look the same but for the handles of newborns. -/
structure Spot.Twin (issued issued' : Nat) (spot spot' : Spot) : Prop where
  food : spot'.food = spot.food
  occupant :
    Option.Rel (Handle.Twin issued issued') spot.occupant spot'.occupant
  dweller : Option.Rel Creature.Twin spot.dweller spot'.dweller

private theorem Spot.Twin.isSome_occupant {issued issued' : Nat}
    {spot spot' : Spot} (twin : Spot.Twin issued issued' spot spot') :
    spot'.occupant.isSome = spot.occupant.isSome := by
  rcases spot with ⟨food, occupant, dweller⟩
  rcases spot' with ⟨food', occupant', dweller'⟩
  cases twin.occupant with
  | none => rfl
  | some alike => rfl

namespace Habitat

variable {σ : Type} {habitat : Habitat σ} {position : Position}
  {tile : Tile}

def spot? (habitat : Habitat σ) (position : Position) : Option Spot :=
  (habitat.world.tile? position).map fun tile =>
    ⟨tile.food, tile.occupant, tile.occupant.bind habitat.store.get⟩

private theorem spot?_of_tile?
    (found : habitat.world.tile? position = some tile) :
    habitat.spot? position =
      some ⟨tile.food, tile.occupant,
        tile.occupant.bind habitat.store.get⟩ := by
  rw [spot?, found, Option.map_some]

theorem occupant?_eq_bind (habitat : Habitat σ) (position : Position) :
    habitat.world.occupant? position =
      (habitat.spot? position).bind Spot.occupant := by
  rw [World.occupant?, spot?]
  cases habitat.world.tile? position <;> rfl

private theorem dweller_eq_bind (habitat : Habitat σ) (position : Position) :
    (habitat.world.occupant? position).bind habitat.store.get =
      (habitat.spot? position).bind Spot.dweller := by
  rw [World.occupant?, spot?]
  cases habitat.world.tile? position <;> rfl

end Habitat

namespace Turn

variable {σ : Type}

/-! ## Effects -/

section Effects

variable [Dice σ] {turn after other : Turn σ} {gene : Gene}

/-- A gene has no choice, since the guards of its effects exclude each
other. -/
theorem Effect.unique (effect : Effect turn gene after)
    (effect' : Effect turn gene other) : after = other := by
  cases effect <;> cases effect' <;> grind

theorem Effect.apply_carryOut (inOrder : turn.InOrder)
    (effect : Effect turn gene after) :
    (carryOut (.gene gene)).apply turn = (.ok (), after) := by
  have goes : (carryOut (.gene gene)).Succeeds turn fun _ other =>
      Effect turn gene other :=
    succeeds_carryOut inOrder rfl
  obtain ⟨_, other, applied, effect'⟩ := goes.exists_apply
  rw [applied, effect.unique effect']

/-- A gene makes no difference to those who stand out of its reach. -/
private theorem Effect.get_occupant (inOrder : turn.InOrder)
    (effect : Effect turn gene after) {position : Position}
    (outside : ¬ turn.Reaches gene position) {handle : Handle}
    (marked : turn.world.occupant? position = some handle) :
    after.store.get handle = turn.store.get handle := by
  by_cases home : position = turn.actor.position
  · -- the actor is out of the store before and after
    rw [home, inOrder.occupant?_position] at marked
    have named : handle = after.actor.handle :=
      (Option.some.inj marked).symm.trans effect.actor_kept.1.symm
    have afterInOrder := effect.inOrder inOrder
    rw [named, afterInOrder.consistent.get_actor, effect.actor_kept.1,
      inOrder.consistent.get_actor]
  · obtain ⟨creature, known⟩ := inOrder.exists_get marked home
    obtain rfl : creature.handle = handle :=
      (Store.get_eq_some_iff.1 known).2
    have placed := inOrder.consistent.position_eq marked known
    refine effect.get_eq inOrder ?_ ?_
    · rintro - struck
      have struckThere := inOrder.consistent.position_eq struck known
      exact outside (Or.inl (placed.symm.trans struckThere))
    · intro _
      exact inOrder.consistent.mem_handles_iff.2 ⟨creature, known⟩

theorem Effect.spot?_eq (inOrder : turn.InOrder)
    (effect : Effect turn gene after) {position : Position}
    (outside : ¬ turn.Reaches gene position) :
    after.spot? position = turn.spot? position := by
  have sameTile := effect.tile?_eq outside
  rcases found : turn.world.tile? position with _ | ⟨food, _ | handle⟩
  · simp [Habitat.spot?, sameTile, found]
  · simp [Habitat.spot?, sameTile, found]
  · have marked : turn.world.occupant? position = some handle :=
      World.occupant?_of_tile? found
    have same := effect.get_occupant inOrder outside marked
    simp [Habitat.spot?, sameTile, found, same]

end Effects

theorem Upkeep.spot?_eq {turn after : Turn σ} (inOrder : turn.InOrder)
    {life : Life} (upkeep : Upkeep turn life after) {position : Position}
    (elsewhere : position ≠ turn.actor.position) :
    after.spot? position = turn.spot? position := by
  have sameTile := upkeep.tile?_eq elsewhere
  have same : after.store.get = turn.store.get :=
    funext (upkeep.get_eq inOrder)
  rw [Habitat.spot?, Habitat.spot?, sameTile, same]

/-! ## Two turns abreast -/

/-- Two turns have got from `first` and `second` to `left` and `right`, and to
the actor there is no difference. -/
structure Abreast (first second left right : Turn σ) : Prop where
  actor : right.actor = left.actor
  dice : right.dice = left.dice
  extent : right.world.extent = left.world.extent
  events : ∃ events, left.tally = first.tally.merge events ∧
    right.tally = second.tally.merge events
  births : ∃ births, left.issued = first.issued + births ∧
    right.issued = second.issued + births
  spots : ∀ position, first.Near position →
    Option.Rel (Spot.Twin first.issued second.issued)
      (left.spot? position) (right.spot? position)

namespace Abreast

variable {first second left right left' right' : Turn σ}
  {position : Position} {tile : Tile} {gene : Gene} {rest : List Codon}

section Looking

variable (abreast : Abreast first second left right)
  (near : first.Near position)
include abreast near

theorem exists_tile (found : left.world.tile? position = some tile) :
    ∃ tile', right.world.tile? position = some tile' ∧
      tile'.food = tile.food ∧ tile'.isOccupied = tile.isOccupied := by
  have twins := abreast.spots position near
  rw [Habitat.spot?_of_tile? found] at twins
  obtain ⟨spot', seen, twin⟩ := exists_of_rel twins
  obtain ⟨tile', found', rfl⟩ := Option.map_eq_some_iff.1 seen
  exact ⟨tile', found', twin.food, twin.isSome_occupant⟩

theorem occupants :
    Option.Rel (Handle.Twin first.issued second.issued)
      (left.world.occupant? position) (right.world.occupant? position) := by
  have twins := abreast.spots position near
  rw [Habitat.occupant?_eq_bind, Habitat.occupant?_eq_bind]
  generalize left.spot? position = spot at twins ⊢
  generalize right.spot? position = spot' at twins ⊢
  cases twins with
  | none => exact .none
  | some twin => exact twin.occupant

theorem dwellers :
    Option.Rel Creature.Twin
      ((left.world.occupant? position).bind left.store.get)
      ((right.world.occupant? position).bind right.store.get) := by
  have twins := abreast.spots position near
  rw [Habitat.dweller_eq_bind, Habitat.dweller_eq_bind]
  generalize left.spot? position = spot at twins ⊢
  generalize right.spot? position = spot' at twins ⊢
  cases twins with
  | none => exact .none
  | some twin => exact twin.dweller

theorem unoccupied_iff :
    right.world.occupant? position = none ↔
      left.world.occupant? position = none := by
  have occupants := abreast.occupants near
  generalize left.world.occupant? position = occupant at occupants ⊢
  generalize right.world.occupant? position = occupant' at occupants ⊢
  cases occupants <;> simp

theorem occupied {occupant : Handle}
    (marked : left.world.occupant? position = some occupant) :
    ∃ occupant', right.world.occupant? position = some occupant' ∧
      Handle.Twin first.issued second.issued occupant occupant' ∧
      Option.Rel Creature.Twin (left.store.get occupant)
        (right.store.get occupant') := by
  have occupants := abreast.occupants near
  have dwellers := abreast.dwellers near
  rw [marked] at occupants dwellers
  obtain ⟨occupant', marked', twin⟩ := exists_of_rel occupants
  rw [marked'] at dwellers
  exact ⟨occupant', marked', twin, dwellers⟩

end Looking

/-! ## Tiles that look the same -/

/-- Two tiles look the same if they are the same and lead to the same
creatures. -/
theorem spot_of_tiles {first second left right : Turn σ}
    {position position' : Position} (same : position' = position)
    {tile tile' : Tile} (found : left.world.tile? position = some tile)
    (found' : right.world.tile? position' = some tile')
    (food : tile'.food = tile.food)
    (occupants : Option.Rel (Handle.Twin first.issued second.issued)
      tile.occupant tile'.occupant)
    (dwellers : Option.Rel Creature.Twin
      (tile.occupant.bind left.store.get)
      (tile'.occupant.bind right.store.get)) :
    Option.Rel (Spot.Twin first.issued second.issued)
      (left.spot? position) (right.spot? position) := by
  subst same
  rw [Habitat.spot?_of_tile? found, Habitat.spot?_of_tile? found']
  exact .some ⟨food, occupants, dwellers⟩

theorem events_merge (abreast : Abreast first second left right)
    {event : Tally} (more : left'.tally = left.tally.merge event)
    (more' : right'.tally = right.tally.merge event) :
    ∃ events, left'.tally = first.tally.merge events ∧
      right'.tally = second.tally.merge events := by
  rcases abreast.events with ⟨events, same, same'⟩
  rw [same, Tally.merge_assoc] at more
  rw [same', Tally.merge_assoc] at more'
  exact ⟨events.merge event, more, more'⟩

/-- Most genes count nothing. -/
theorem exists_no_event (left right : Turn σ) :
    ∃ event, left.tally = left.tally.merge event ∧
      right.tally = right.tally.merge event :=
  ⟨.zero, (Tally.merge_zero _).symm, (Tally.merge_zero _).symm⟩

/-- A tile gets another occupant, but keeps its food. -/
theorem hosted (abreast : Abreast first second left right)
    (near : first.Near position)
    (found : left.world.tile? position = some tile)
    {position' : Position} (same : position' = position)
    {occupant occupant' : Option Handle}
    (changed : left'.world.tile? position =
      (left.world.tile? position).map (·.hosting occupant))
    (changed' : right'.world.tile? position' =
      (right.world.tile? position').map (·.hosting occupant'))
    (occupants :
      Option.Rel (Handle.Twin first.issued second.issued) occupant occupant')
    (dwellers : Option.Rel Creature.Twin (occupant.bind left'.store.get)
      (occupant'.bind right'.store.get)) :
    Option.Rel (Spot.Twin first.issued second.issued)
      (left'.spot? position) (right'.spot? position) := by
  obtain ⟨tile', found', food, -⟩ := abreast.exists_tile near found
  rw [found, Option.map_some] at changed
  rw [same, found', Option.map_some, ← same] at changed'
  exact spot_of_tiles same changed changed' food occupants dwellers

/-- A tile is left empty. -/
theorem vacated (abreast : Abreast first second left right)
    (near : first.Near position)
    (found : left.world.tile? position = some tile)
    {position' : Position} (same : position' = position)
    (changed : left'.world.tile? position =
      (left.world.tile? position).map (·.hosting none))
    (changed' : right'.world.tile? position' =
      (right.world.tile? position').map (·.hosting none)) :
    Option.Rel (Spot.Twin first.issued second.issued)
      (left'.spot? position) (right'.spot? position) :=
  abreast.hosted near found same changed changed' .none .none

end Abreast

end Turn

end Vivarium
