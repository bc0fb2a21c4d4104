import Vivarium.Proofs.Ends
import Vivarium.Proofs.Grid
import Vivarium.Proofs.Heredity
import Vivarium.Round
import Vivarium.Store.Lookup

/-!
# Actions of a habitat and of a turn

How the single actions end that genes and upkeep are made of, given what they
find: a tile on the grid, a handle that holds its slot, a program that is
admitted.
-/

namespace Vivarium

open Habitat

variable {σ : Type}

/-! ## Actions of a habitat -/

namespace Habitat

variable {habitat : Habitat σ} {fail : Fault → Habitat σ → Prop}

@[simp]
theorem ends_note {notice : Notice} {post : Unit → Habitat σ → Prop} :
    (note notice).Ends habitat post fail ↔
      post () { habitat with journal := notice :: habitat.journal } :=
  Iff.rfl

@[simp]
theorem ends_occupy {position : Position} {occupant : Option Handle}
    {post : Unit → Habitat σ → Prop} :
    (occupy position occupant).Ends habitat post fail ↔
      post ()
        { habitat with
          world := habitat.world.setOccupant position occupant } :=
  Iff.rfl

@[simp]
theorem ends_addFood {position : Position} {amount : Int}
    {post : Unit → Habitat σ → Prop} :
    (addFood position amount).Ends habitat post fail ↔
      post ()
        { habitat with
          world := habitat.world.update position fun tile =>
            { tile with food := tile.food + amount } } :=
  Iff.rfl

theorem ends_inspect {position : Position} {tile : Tile}
    {post : Tile → Habitat σ → Prop}
    (found : habitat.world.tile? position = some tile) :
    (inspect position).Ends habitat post fail ↔ post tile habitat := by
  rw [inspect, Act.ends_bind, Act.ends_get,
    Act.ends_liftM (World.tileAt_eq_ok_iff.2 found)]

theorem ends_release {handle : Handle} {post : Bool → Habitat σ → Prop}
    (kept : habitat.store.holds handle = true) :
    (release handle).Ends habitat post fail ↔
      post true
        { habitat with store := (habitat.store.release handle).2 } := by
  have released : (habitat.store.release handle).1 = true := by
    rw [Store.fst_release, kept]
  simp only [release, Act.ends_bind, Act.ends_modifyGet, Act.ends_get,
    released, Bool.not_true, Bool.false_and, Bool.false_eq_true, if_false,
    Act.ends_pure]

theorem ends_spawn {position : Position} {program : List Codon}
    {post : Handle → Habitat σ → Prop}
    (admitted : Codon.checkProgram program = .ok ()) :
    (spawn position program).Ends habitat post fail ↔
      post (habitat.store.allocate habitat.issued).1
        { habitat with
          store :=
            (habitat.store.allocate habitat.issued).2.1.set
              (habitat.store.allocate habitat.issued).1
              (Creature.born (habitat.store.allocate habitat.issued).1
                position program)
          issued := (habitat.store.allocate habitat.issued).2.2 } := by
  apply Act.ends_ofStep
  simp only [Store.addCreature, Creature.newborn_eq_ok admitted]

end Habitat

/-! ## Actions of a turn -/

namespace Turn

variable {turn : Turn σ} {fail : Fault → Turn σ → Prop}

@[simp]
theorem ends_shared {α : Type} {act : Act (Habitat σ) α}
    {post : α → Turn σ → Prop} :
    (shared act).Ends turn post fail ↔
      act.Ends turn.toHabitat
        (fun value after => post value { turn with toHabitat := after })
        (fun fault after => fail fault { turn with toHabitat := after }) := by
  unfold Act.Ends shared
  rw [Act.apply_ofStep]
  rcases act.apply turn.toHabitat with ⟨_ | _, _⟩ <;> rfl

@[simp]
theorem ends_gain {amount : Int} {post : Unit → Turn σ → Prop} :
    (gain amount).Ends turn post fail ↔
      post () { turn with actor.energy := turn.actor.energy + amount } :=
  Iff.rfl

@[simp]
theorem ends_count {event : Tally} {post : Unit → Turn σ → Prop} :
    (count event).Ends turn post fail ↔
      post () { turn with tally := turn.tally.merge event } :=
  Iff.rfl

section Rolls

variable [Dice σ]

/-- The tile that the next roll of the actor points at. -/
def target (turn : Turn σ) : Position :=
  turn.world.neighbor turn.actor.position
    (turn.actor.sensors.chooseDirection turn.dice).1.offset

def rolled (turn : Turn σ) : Turn σ :=
  { turn with dice := (turn.actor.sensors.chooseDirection turn.dice).2 }

@[simp]
theorem ends_aim {post : Position → Turn σ → Prop} :
    aim.Ends turn post fail ↔ post turn.target turn.rolled :=
  Iff.rfl

theorem contains_target
    (onGrid : turn.world.contains turn.actor.position = true) :
    turn.world.contains turn.target = true :=
  World.contains_neighbor onGrid _

end Rolls

end Turn

end Vivarium
