import Vivarium.Proofs.Schedule
import Vivarium.Proofs.Steps

/-!
# Whom an attack strikes

An attacker is out of the store, so an attack on its own tile finds a handle
that leads nowhere. That is the only attack that does: every other handle on
the grid leads to a stored creature, at any time while a program runs. A step
leads back to its own tile just where the grid is one tile wide that way.
-/

namespace Vivarium

namespace Extent

/-- The number of tiles on the way round the grid in a direction. -/
def span (extent : Extent) : Direction → Int
  | .east | .west => extent.width
  | .north | .south => extent.height

variable {extent : Extent}

/-- A step leads back to where it starts just if the way round is one tile
long. -/
theorem neighbor_eq_self_iff {position : Position}
    (onGrid : extent.contains position = true) (direction : Direction) :
    extent.neighbor position direction.offset = position ↔
      extent.span direction = 1 := by
  rcases contains_iff.1 onGrid with ⟨xNonneg, xBelow, yNonneg, yBelow⟩
  have single := direction.single_offset
  obtain ⟨x, y⟩ := position
  simp only [neighbor, Position.mk.injEq]
  cases direction with
  | east | west =>
      have column := wrapCoordinate_eq_self_iff xNonneg xBelow single.1
        (by decide)
      have row := wrapCoordinate_zero yNonneg yBelow
      exact (and_iff_left row).trans column
  | north | south =>
      have column := wrapCoordinate_zero xNonneg xBelow
      have row := wrapCoordinate_eq_self_iff yNonneg yBelow single.2
        (by decide)
      exact (and_iff_right column).trans row

end Extent

variable {σ : Type} [Dice σ]

namespace Turn

variable {turn now after : Turn σ}

/-! ## While a program runs -/

/-- A state in which a turn is while its program runs: some entries have been
carried out, from the first one on. -/
def Underway (turn now : Turn σ) : Prop :=
  ∃ front back, turn.actor.program = front ++ back ∧
    (front.forM carryOut).apply turn = (.ok (), now)

private theorem InOrder.succeeds_entries (inOrder : turn.InOrder) :
    ∀ codon ∈ turn.actor.program, ∀ before, turn.Follows before →
      (carryOut codon).Succeeds before fun _ later =>
        turn.Follows later := by
  intro codon member before follows
  rcases inOrder.viable.exists_gene member with ⟨gene, rfl⟩
  refine (succeeds_carryOut follows.inOrder rfl).mono ?_
  intro _ later effect
  exact follows.step effect

theorem Underway.follows (inOrder : turn.InOrder)
    (underway : turn.Underway now) : turn.Follows now := by
  rcases underway with ⟨front, back, parted, ran⟩
  have stepFront : ∀ codon ∈ front, ∀ before, turn.Follows before →
      (carryOut codon).Succeeds before fun _ later =>
        turn.Follows later := by
    intro codon member
    have listed : codon ∈ turn.actor.program := by
      rw [parted]
      exact List.mem_append_left back member
    exact inOrder.succeeds_entries codon listed
  exact (Act.succeeds_forM inOrder.follows_self stepFront).of_apply ran

/-- Every gene is carried out in such a state. -/
private theorem underway_of_mem_genes (inOrder : turn.InOrder)
    {entry : Codon × Turn σ} (member : entry ∈ turn.genes) :
    turn.Underway entry.2 := by
  unfold genes at member
  split at member
  · cases member
  · obtain ⟨earlier, later, cut⟩ := List.append_of_mem member
    obtain ⟨front, back, _, parted, reached, -⟩ :=
      Act.split_of_trace inOrder.follows_self inOrder.succeeds_entries cut
    exact ⟨front, entry.1 :: back, parted, reached⟩

/-! ## The tile that is struck -/

def heading (turn : Turn σ) : Direction :=
  (turn.actor.sensors.chooseDirection turn.dice).1

theorem InOrder.target_eq_position_iff (inOrder : turn.InOrder) :
    turn.target = turn.actor.position ↔
      turn.world.extent.span turn.heading = 1 :=
  Extent.neighbor_eq_self_iff inOrder.onGrid turn.heading

section Lookup

omit [Dice σ]

/-- The actor stands on its own tile. -/
theorem InOrder.occupant?_position (inOrder : turn.InOrder) :
    turn.world.occupant? turn.actor.position = some turn.actor.handle :=
  inOrder.consistent.settled.marked inOrder.consistent.actor_present

/-- Whoever stands elsewhere is stored. -/
theorem InOrder.exists_get (inOrder : turn.InOrder) {position : Position}
    {occupant : Handle}
    (occupied : turn.world.occupant? position = some occupant)
    (elsewhere : position ≠ turn.actor.position) :
    ∃ creature, turn.store.get occupant = some creature := by
  have consistent := inOrder.consistent
  obtain ⟨creature, present, rfl, placed⟩ :=
    consistent.settled.resolved occupied
  have otherSlot : ∀ actor ∈ some turn.actor,
      actor.handle.slot ≠ creature.handle.slot := by
    intro actor isOut same
    cases isOut
    rw [← same, consistent.actor_present] at present
    have actual : turn.actor = creature := Option.some.inj present
    rw [← placed, ← actual] at elsewhere
    exact elsewhere rfl
  exact ⟨creature, consistent.get_of_resident present otherSlot⟩

/-- Nobody who is stored is the actor, or stands where it stands. -/
private theorem InOrder.ne_actor (inOrder : turn.InOrder) {handle : Handle}
    {creature : Creature}
    (known : turn.store.get handle = some creature) :
    creature.handle ≠ turn.actor.handle ∧
      creature.position ≠ turn.actor.position := by
  have consistent := inOrder.consistent
  obtain rfl : creature.handle = handle :=
    (Store.get_eq_some_iff.1 known).2
  have different : creature.handle ≠ turn.actor.handle := by
    intro same
    rw [same, consistent.get_actor] at known
    cases known
  refine ⟨different, ?_⟩
  intro samePosition
  have mark :=
    consistent.settled.marked (consistent.resident_of_get known).1
  rw [samePosition, inOrder.occupant?_position] at mark
  exact different (Option.some.inj mark).symm

private theorem span_ne_one (wide : 2 ≤ turn.world.width)
    (high : 2 ≤ turn.world.height) (direction : Direction) :
    turn.world.extent.span direction ≠ 1 := by
  cases direction <;> simp only [Extent.span, World.extent] <;> omega

end Lookup

/-- An attack on the own tile finds the attacker's handle, which leads nowhere
while it acts. Nothing comes of it but a notice. -/
theorem Effect.of_own (inOrder : turn.InOrder)
    (effect : Effect turn .attack after)
    (own : turn.target = turn.actor.position) :
    after =
      { turn.rolled with
        journal :=
          .unresolvedAttack turn.actor.handle turn.actor.handle ::
            turn.journal } := by
  have home := inOrder.occupant?_position
  have unknown := inOrder.consistent.get_actor
  rw [← own] at home
  cases effect with
  | blocked needy occupied =>
      simp at needy
  | missed unoccupied =>
      rw [home] at unoccupied
      cases unoccupied
  | unresolved occupied nobody =>
      rw [home] at occupied
      cases occupied
      rfl
  | wounded occupied known strong | killed occupied known weak =>
      rw [home] at occupied
      rw [← Option.some.inj occupied, unknown] at known
      cases known

/-! ## Attacks -/

/-- Whom an attack strikes, if anybody. -/
structure Struck (turn after : Turn σ) : Prop where
  /-- A handle that leads nowhere is on the attacker's own tile, and the grid
  is one tile wide in the direction of the attack. -/
  unresolved : ∀ occupant,
    turn.world.occupant? turn.target = some occupant →
      turn.store.get occupant = none →
        turn.target = turn.actor.position ∧
          turn.world.extent.span turn.heading = 1
  /-- There always is such a handle on the own tile, and an attack on it hurts
  and feeds nobody. -/
  own : turn.target = turn.actor.position →
    turn.world.occupant? turn.target = some turn.actor.handle ∧
      turn.store.get turn.actor.handle = none ∧
      after =
        { turn.rolled with
          journal :=
            .unresolvedAttack turn.actor.handle turn.actor.handle ::
              turn.journal }
  other : ∀ occupant victim,
    turn.world.occupant? turn.target = some occupant →
      turn.store.get occupant = some victim →
        victim.handle = occupant ∧ victim.position = turn.target ∧
          victim.handle ≠ turn.actor.handle ∧
          victim.position ≠ turn.actor.position
  resolved : 2 ≤ turn.world.width → 2 ≤ turn.world.height →
    ∀ occupant, turn.world.occupant? turn.target = some occupant →
      ∃ victim, turn.store.get occupant = some victim ∧
        victim.handle ≠ turn.actor.handle

theorem Effect.struck (inOrder : turn.InOrder)
    (effect : Effect turn .attack after) : turn.Struck after where
  unresolved := by
    intro occupant occupied unknown
    have own : turn.target = turn.actor.position := by
      by_contra elsewhere
      obtain ⟨creature, known⟩ := inOrder.exists_get occupied elsewhere
      rw [unknown] at known
      cases known
    exact ⟨own, inOrder.target_eq_position_iff.1 own⟩
  own := by
    intro own
    have home := inOrder.occupant?_position
    rw [← own] at home
    exact ⟨home, inOrder.consistent.get_actor, effect.of_own inOrder own⟩
  other := by
    intro occupant victim occupied known
    obtain rfl : victim.handle = occupant :=
      (Store.get_eq_some_iff.1 known).2
    have placed := inOrder.consistent.position_eq occupied known
    exact ⟨rfl, placed, inOrder.ne_actor known⟩
  resolved := by
    intro wide high occupant occupied
    have elsewhere : turn.target ≠ turn.actor.position := by
      intro own
      have short := inOrder.target_eq_position_iff.1 own
      exact span_ne_one wide high turn.heading short
    obtain ⟨victim, known⟩ := inOrder.exists_get occupied elsewhere
    exact ⟨victim, known, (inOrder.ne_actor known).1⟩

end Turn

/-! ## In any run -/

namespace Engine

variable {engine : Engine σ}

/-- An attack at any time while a program runs in some round, whatever is
rolled. -/
theorem unresolved_attacks_own_tile (reachable : Reachable engine)
    {turn : Turn σ} (taken : turn ∈ engine.turns) {now : Turn σ}
    (underway : turn.Underway now) (dice : σ) :
    ∃ after, Turn.attack.apply { now with dice } = (.ok (), after) ∧
      Turn.Struck { now with dice } after := by
  obtain ⟨visit, -, -, turnInOrder, -, -⟩ :=
    exists_visit_of_mem_turns reachable.inOrder taken
  have inOrder : Turn.InOrder { now with dice } :=
    (underway.follows turnInOrder).inOrder
  obtain ⟨_, after, applied, effect⟩ :=
    (Turn.succeeds_attack inOrder.onGrid).exists_apply
  exact ⟨after, applied, effect.struck inOrder⟩

/-- On a grid of one row an attacker wounds its neighbour in the east, and
then strikes north. -/
theorem second_attack_on_own_tile :
    ∃ (engine : Engine Script) (turn now after : Turn Script),
      turn ∈ engine.turns ∧ turn.Underway now ∧
        now.world.extent = ⟨2, 1⟩ ∧ now.heading = .north ∧
        now.target = now.actor.position ∧ now.actor.energy = 70 ∧
        Turn.attack.apply now = (.ok (), after) ∧
        Turn.Struck now after := by
  have figures :
      ((couple (⟨#[0, 300], 0⟩ : Script)
          ([.gene .attack, .gene .attack], 50) ([.gene .nop], 30)).bind
        fun engine => engine.turns.head?.bind fun turn =>
          turn.genes[1]?.map fun entry =>
            (entry.2.world.extent, entry.2.heading, entry.2.target,
              entry.2.actor.position, entry.2.actor.energy)) =
        some (⟨2, 1⟩, .north, ⟨0, 0⟩, ⟨0, 0⟩, 70) := by
    decide +kernel
  obtain ⟨engine, paired, figures⟩ := Option.bind_eq_some_iff.1 figures
  obtain ⟨turn, first, figures⟩ := Option.bind_eq_some_iff.1 figures
  obtain ⟨entry, second, told⟩ := Option.map_eq_some_iff.1 figures
  simp only [Prod.mk.injEq] at told
  rcases told with ⟨extent, heading, target, position, energy⟩
  have reachable : Reachable engine :=
    reachable_of_couple paired (by decide) (by decide)
  have taken := List.mem_of_mem_head? first
  obtain ⟨visit, -, -, turnInOrder, -, -⟩ :=
    exists_visit_of_mem_turns reachable.inOrder taken
  have underway :=
    Turn.underway_of_mem_genes turnInOrder (List.mem_of_getElem? second)
  obtain ⟨after, applied, struck⟩ :=
    unresolved_attacks_own_tile reachable taken underway entry.2.dice
  exact ⟨engine, turn, entry.2, after, taken, underway, extent, heading,
    target.trans position.symm, energy, applied, struck⟩

end Engine

end Vivarium
