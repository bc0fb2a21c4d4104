import Vivarium.Proofs.RoundsInStep
import Vivarium.Proofs.Steps

/-!
# Shifts of the torus

No tile of the torus is special. When all that is on the grid is shifted by the
same distance, across the joined edges where need be, everything goes on as
before, only shifted.
-/

namespace Vivarium

variable {σ : Type}

/-! ## Shifts of positions -/

namespace Extent

variable {extent : Extent} {position : Position}

/-- A position so many columns east and so many rows south, around the
torus. -/
def shift (extent : Extent) (a b : Int) (position : Position) :
    Position where
  x := (position.x + a) % extent.width
  y := (position.y + b) % extent.height

private theorem wrapCoordinate_shift
    {value bound step : Int} (nonneg : 0 ≤ value)
    (below : value < bound) (single : -1 ≤ step ∧ step ≤ 1)
    (distance : Int) :
    wrapCoordinate ((value + distance) % bound + step) bound =
      (wrapCoordinate (value + step) bound + distance) % bound := by
  have positive : 0 < bound := by
    omega
  rw [wrapCoordinate_eq nonneg below single,
    wrapCoordinate_eq (Int.emod_nonneg _ positive.ne')
      (Int.emod_lt_of_pos _ positive) single,
    Int.emod_add_emod, Int.emod_add_emod, Int.add_right_comm]

private theorem contains_shift (onGrid : extent.contains position = true)
    (a b : Int) : extent.contains (extent.shift a b position) = true := by
  rcases contains_iff.1 onGrid with ⟨xNonneg, xBelow, yNonneg, yBelow⟩
  have wide : 0 < extent.width := by
    omega
  have high : 0 < extent.height := by
    omega
  exact contains_iff.2 ⟨Int.emod_nonneg _ wide.ne', Int.emod_lt_of_pos _ wide,
    Int.emod_nonneg _ high.ne', Int.emod_lt_of_pos _ high⟩

/-- What is shifted there and back again has not moved. -/
theorem shift_shift_neg (onGrid : extent.contains position = true)
    (a b : Int) :
    extent.shift a b (extent.shift (-a) (-b) position) = position := by
  rcases contains_iff.1 onGrid with ⟨xNonneg, xBelow, yNonneg, yBelow⟩
  simp only [shift, Int.emod_add_emod, Int.neg_add_cancel_right]
  rw [Int.emod_eq_of_lt xNonneg xBelow, Int.emod_eq_of_lt yNonneg yBelow]

end Extent

namespace Relabelling

def shifting (extent : Extent) (a b : Int) : Relabelling where
  move := extent.shift a b
  stamp := id

variable {extent : Extent} {a b : Int}

theorem fits_shifting : (shifting extent a b).Fits extent where
  injective := by
    intro left right leftOnGrid rightOnGrid same
    have back := congrArg (extent.shift (-a) (-b)) same
    have leftBack := Extent.shift_shift_neg leftOnGrid (-a) (-b)
    have rightBack := Extent.shift_shift_neg rightOnGrid (-a) (-b)
    rw [Int.neg_neg, Int.neg_neg] at leftBack rightBack
    exact leftBack.symm.trans (back.trans rightBack)
  neighbor := by
    intro position onGrid direction
    rcases Extent.contains_iff.1 onGrid with
      ⟨xNonneg, xBelow, yNonneg, yBelow⟩
    have single := direction.single_offset
    simp only [shifting, Extent.neighbor, Extent.shift, Position.mk.injEq]
    exact ⟨Extent.wrapCoordinate_shift xNonneg xBelow single.1 a,
      Extent.wrapCoordinate_shift yNonneg yBelow single.2 b⟩
  stamps := Function.injective_id

@[simp]
theorem tile_shifting (tile : Tile) :
    (shifting extent a b).tile tile = tile := by
  rcases tile with ⟨food, _ | occupant⟩ <;> rfl

def store (label : Relabelling) (store : Store) : Store :=
  { store with slots := store.slots.map label.slot }

private theorem image_store (label : Relabelling) (store : Store) :
    store.Image label (label.store store) where
  count := Array.size_map
  slot := by
    intro index
    simp only [Store.slot, Relabelling.store, Array.getD_eq_getD_getElem?,
      Array.getElem?_map]
    cases store.slots[index]? <;> rfl
  free := rfl

end Relabelling

namespace World

def shift (world : World) (a b : Int) : World where
  width := world.width
  height := world.height
  tiles :=
    Array.ofFn fun index : Fin (world.width * world.height) =>
      let origin := world.extent.shift (-a) (-b) (world.positionAt index)
      (world.tile? origin).getD default
  width_pos := world.width_pos
  height_pos := world.height_pos
  size_tiles := Array.size_ofFn

private theorem getElem?_tiles_shift {world : World} {index : Nat}
    (bound : index < world.width * world.height) (a b : Int) :
    (world.shift a b).tiles[index]? =
      world.tile?
        (world.extent.shift (-a) (-b) (world.positionAt index)) := by
  rw [shift, Array.getElem?_ofFn, dif_pos bound]
  rw [← world.size_tiles] at bound
  have onGrid := Extent.contains_shift (contains_positionAt bound) (-a) (-b)
  rcases exists_tile? onGrid with ⟨tile, found⟩
  simp [found]

theorem image_shift (world : World) (a b : Int) :
    world.Image (.shifting world.extent a b) (world.shift a b) where
  extent := rfl
  tile := by
    intro position onGrid
    have inside : (world.shift a b).contains
        (world.extent.shift a b position) = true :=
      Extent.contains_shift onGrid a b
    have bound :
        (world.shift a b).index (world.extent.shift a b position) <
          world.width * world.height := by
      have below := index_lt inside
      rw [World.size_tiles] at below
      exact below
    have there :
        world.positionAt
            ((world.shift a b).index (world.extent.shift a b position)) =
          world.extent.shift a b position :=
      positionAt_index inside
    have back := Extent.shift_shift_neg onGrid (-a) (-b)
    rw [Int.neg_neg, Int.neg_neg] at back
    show (world.shift a b).tile? (world.extent.shift a b position) = _
    rw [tile?, if_pos inside, getElem?_tiles_shift bound, there, back]
    cases world.tile? position with
    | none =>
        rfl
    | some tile =>
        simp

end World

/-! ## Shifted simulations -/

namespace Engine

/-- A simulation in which everything lies so many columns further east and so
many rows further south, around the torus. All else is the same, but for the
notices, which say where. -/
structure Shifted (a b : Int) (engine engine' : Engine σ) : Prop where
  image : Image (.shifting engine.config.extent a b) engine engine'
  issued : engine'.issued = engine.issued

variable {engine engine' after after' : Engine σ} {a b : Int}

theorem Paired.shifted {extent : Extent}
    (paired : Paired (.shifting extent a b) extent engine engine') :
    Shifted a b engine engine' := by
  rcases paired with ⟨alike, inOrder, rfl⟩
  exact ⟨alike.image, alike.habitat.issued⟩

def shift (engine : Engine σ) (a b : Int) : Engine σ :=
  { engine with
    world := engine.world.shift a b
    store :=
      (Relabelling.shifting engine.config.extent a b).store engine.store }

private theorem shifted_shift (measured : engine.Measured) :
    Shifted a b engine (engine.shift a b) := by
  refine ⟨⟨⟨?_, Relabelling.image_store _ _, rfl⟩, rfl⟩, rfl⟩
  rw [← measured]
  exact World.image_shift engine.world a b

section Reachable

variable [Dice σ]

theorem Shifted.paired (reachable : Reachable engine)
    (shifted : Shifted a b engine engine') :
    Paired (.shifting engine.config.extent a b) engine.config.extent engine
      engine' := by
  refine ⟨⟨⟨shifted.image.habitat, reachable.measured, reachable.grounded,
    shifted.issued, ?_⟩, shifted.image.rest⟩, reachable.inOrder, rfl⟩
  exact fun _ _ => rfl

/-- The torus has no special tile: from a shifted state a round rolls the same
dice, answers the same and counts the same births and deaths, and what it
leaves is shifted, too. So it is with a run. The dice keep a record of their
rolls, so that dice that are the same have rolled the same. -/
theorem no_special_tile {engine : Engine (Recorded σ)}
    (reachable : Reachable engine) (a b : Int) :
    Shifted a b engine (engine.shift a b) ∧
      ∀ engine' : Engine (Recorded σ), Shifted a b engine engine' →
        (∃ answer after after',
          advance.apply engine = (.ok answer, after) ∧
            advance.apply engine' = (.ok answer, after') ∧
            Shifted a b after after') ∧
          ∀ patience bound, ∃ result after after',
            (run patience bound).apply engine = (result, after) ∧
              (run patience bound).apply engine' = (result, after') ∧
              Shifted a b after after' := by
  refine ⟨shifted_shift reachable.measured, ?_⟩
  intro engine' shifted
  have paired := shifted.paired reachable
  refine ⟨?_, ?_⟩
  · obtain ⟨answer, after, applied, advanced⟩ :=
      (succeeds_advance reachable.inOrder).exists_apply
    obtain ⟨_, after', applied', rfl, pairedAfter⟩ :=
      (paired_advance Relabelling.fits_shifting).exists_apply paired applied
    exact ⟨answer, after, after', applied, applied', pairedAfter.shifted⟩
  · intro patience bound
    obtain ⟨result, after, after', applied, applied', pairedAfter⟩ :=
      (paired_run Relabelling.fits_shifting patience bound).exists_result
        paired
    exact ⟨result, after, after', applied, applied', pairedAfter.shifted⟩

/-- A duel on two tiles, and the same one a tile further: one roll, which
shows the east. -/
theorem shifted_duel :
    ∃ engine engine' after after' : Engine (Recorded Script),
      engine.store.creatures.map Creature.position = [⟨0, 0⟩, ⟨1, 0⟩] ∧
        engine'.store.creatures.map Creature.position = [⟨1, 0⟩, ⟨0, 0⟩] ∧
        advance.apply engine = (.ok true, after) ∧
        advance.apply engine' = (.ok true, after') ∧
        after'.dice.draws = [⟨516, 0⟩] ∧ Shifted 1 0 after after' := by
  have figures :
      ((couple (⟨⟨#[0], 0⟩, []⟩ : Recorded Script) ([.gene .attack], 50)
          ([.gene .nop], 10)).map fun engine =>
        let round := advance.apply engine
        (engine.store.creatures.map Creature.position,
          (engine.shift 1 0).store.creatures.map Creature.position,
          round.1, round.2.dice.draws)) =
        some ([⟨0, 0⟩, ⟨1, 0⟩], [⟨1, 0⟩, ⟨0, 0⟩], .ok true,
          [⟨516, 0⟩]) := by
    decide +kernel
  rcases Option.map_eq_some_iff.1 figures with ⟨engine, paired, told⟩
  rcases Prod.mk.inj told with ⟨here, told⟩
  rcases Prod.mk.inj told with ⟨there, told⟩
  rcases Prod.mk.inj told with ⟨answered, rolled⟩
  have reachable := reachable_of_couple paired (by decide) (by decide)
  obtain ⟨shifted, inStep⟩ := no_special_tile reachable 1 0
  obtain ⟨⟨answer, after, after', applied, applied', shiftedAfter⟩, -⟩ :=
    inStep _ shifted
  rw [applied] at answered rolled
  cases answered
  refine ⟨engine, _, after, after', here, there, applied, applied', ?_,
    shiftedAfter⟩
  rw [shiftedAfter.image.habitat.dice]
  exact rolled

end Reachable

end Engine

end Vivarium
