import Mathlib.Data.Int.ModEq
import Mathlib.Data.Set.Function
import Vivarium.Proofs.Grid

/-!
# Steps around the torus

A step compares a coordinate with the two edges of the grid and never divides.
From a position on the grid it is addition modulo the extent all the same, also
where the grid is so narrow that its edges coincide. So every step can be taken
back, two steps can change places, and a step permutes the grid.
-/

namespace Vivarium

/-! ## Steps along one axis -/

namespace Extent

section Coordinate

variable {value bound step : Int} (nonneg : 0 ≤ value)
  (below : value < bound) (single : -1 ≤ step ∧ step ≤ 1)
include nonneg below single

/-- On the grid a single step is a step modulo the extent. -/
theorem wrapCoordinate_eq :
    wrapCoordinate (value + step) bound = (value + step) % bound := by
  rcases wrapCoordinate_mem nonneg below single with ⟨lower, upper⟩
  have congruent :
      wrapCoordinate (value + step) bound ≡ value + step [ZMOD bound] := by
    apply Int.modEq_iff_dvd.2
    unfold wrapCoordinate at lower upper ⊢
    split
    · exact ⟨-1, by omega⟩
    · split
      · exact ⟨1, by omega⟩
      · exact ⟨0, by omega⟩
  rw [← congruent.eq, Int.emod_eq_of_lt lower upper]

/-- Two single steps add up. -/
theorem wrapCoordinate_wrapCoordinate {next : Int}
    (nextSingle : -1 ≤ next ∧ next ≤ 1) :
    wrapCoordinate (wrapCoordinate (value + step) bound + next) bound =
      (value + (step + next)) % bound := by
  rcases wrapCoordinate_mem nonneg below single with ⟨lower, upper⟩
  rw [wrapCoordinate_eq lower upper nextSingle,
    wrapCoordinate_eq nonneg below single, Int.emod_add_emod, Int.add_assoc]

private theorem wrapCoordinate_back :
    wrapCoordinate (wrapCoordinate (value + step) bound + -step) bound =
      value := by
  have backSingle : -1 ≤ -step ∧ -step ≤ 1 := by
    omega
  rw [wrapCoordinate_wrapCoordinate nonneg below single backSingle,
    Int.add_right_neg, Int.add_zero, Int.emod_eq_of_lt nonneg below]

/-- A step that moves leads back to where it starts just if there is nowhere
else to go. -/
theorem wrapCoordinate_eq_self_iff (moves : step ≠ 0) :
    wrapCoordinate (value + step) bound = value ↔ bound = 1 := by
  unfold wrapCoordinate
  split
  · omega
  · split <;> omega

end Coordinate

theorem wrapCoordinate_zero {value bound : Int}
    (nonneg : 0 ≤ value) (below : value < bound) :
    wrapCoordinate (value + 0) bound = value := by
  have notNegative : ¬ value < 0 := Int.not_lt.2 nonneg
  have notBeyond : ¬ bound ≤ value := Int.not_le.2 below
  simp only [wrapCoordinate, Int.add_zero, notNegative, notBeyond, if_false]

end Extent

/-! ## Steps on the grid -/

namespace Offset

def back (offset : Offset) : Offset := ⟨-offset.dx, -offset.dy⟩

theorem Single.back {offset : Offset} (single : offset.Single) :
    offset.back.Single := by
  simp only [Single, Offset.back] at *
  omega

private theorem back_back (offset : Offset) : offset.back.back = offset := by
  simp [back]

end Offset

namespace Extent

variable {extent : Extent} {position : Position} {offset next : Offset}

theorem neighbor_eq_emod (onGrid : extent.contains position = true)
    (single : offset.Single) :
    extent.neighbor position offset =
      ⟨(position.x + offset.dx) % extent.width,
        (position.y + offset.dy) % extent.height⟩ := by
  rcases contains_iff.1 onGrid with ⟨xNonneg, xBelow, yNonneg, yBelow⟩
  rw [neighbor, wrapCoordinate_eq xNonneg xBelow single.1,
    wrapCoordinate_eq yNonneg yBelow single.2]

theorem neighbor_back (onGrid : extent.contains position = true)
    (single : offset.Single) :
    extent.neighbor (extent.neighbor position offset) offset.back =
      position := by
  rcases contains_iff.1 onGrid with ⟨xNonneg, xBelow, yNonneg, yBelow⟩
  have column := wrapCoordinate_back xNonneg xBelow single.1
  have row := wrapCoordinate_back yNonneg yBelow single.2
  simp only [neighbor, Offset.back, column, row]

theorem neighbor_comm (onGrid : extent.contains position = true)
    (single : offset.Single) (nextSingle : next.Single) :
    extent.neighbor (extent.neighbor position offset) next =
      extent.neighbor (extent.neighbor position next) offset := by
  rcases contains_iff.1 onGrid with ⟨xNonneg, xBelow, yNonneg, yBelow⟩
  simp only [neighbor, Position.mk.injEq]
  constructor
  · rw [wrapCoordinate_wrapCoordinate xNonneg xBelow single.1 nextSingle.1,
      wrapCoordinate_wrapCoordinate xNonneg xBelow nextSingle.1 single.1,
      Int.add_comm offset.dx]
  · rw [wrapCoordinate_wrapCoordinate yNonneg yBelow single.2 nextSingle.2,
      wrapCoordinate_wrapCoordinate yNonneg yBelow nextSingle.2 single.2,
      Int.add_comm offset.dy]

/-- A step permutes the grid: the step back is its inverse. -/
theorem bijOn_neighbor (single : offset.Single) :
    Set.BijOn (fun position => extent.neighbor position offset)
      extent.grid extent.grid := by
  have stays : ∀ {step : Offset}, step.Single →
      Set.MapsTo (fun position => extent.neighbor position step)
        extent.grid extent.grid :=
    fun stepSingle _ onGrid => contains_neighbor onGrid stepSingle
  have inverse : Set.InvOn
      (fun position => extent.neighbor position offset.back)
      (fun position => extent.neighbor position offset)
      extent.grid extent.grid := by
    refine ⟨fun position onGrid => neighbor_back onGrid single, ?_⟩
    intro position onGrid
    have undone := neighbor_back onGrid single.back
    rw [Offset.back_back] at undone
    exact undone
  exact inverse.bijOn (stays single) (stays single.back)

/-- A step is the same translation of the torus wherever it is taken. -/
structure Translates (extent : Extent) (offset : Offset) : Prop where
  neighbor_eq : ∀ position ∈ extent.grid,
    extent.neighbor position offset =
      ⟨(position.x + offset.dx) % extent.width,
        (position.y + offset.dy) % extent.height⟩
  stays : ∀ position ∈ extent.grid,
    extent.neighbor position offset ∈ extent.grid
  undone : ∀ position ∈ extent.grid,
    extent.neighbor (extent.neighbor position offset) offset.back = position
  commutes : ∀ position ∈ extent.grid, ∀ next : Offset, next.Single →
    extent.neighbor (extent.neighbor position offset) next =
      extent.neighbor (extent.neighbor position next) offset
  bijective :
    Set.BijOn (fun position => extent.neighbor position offset)
      extent.grid extent.grid
  /-- A coordinate that takes part stays as it is only where the grid is one
  tile wide, or high. -/
  column : offset.dx ≠ 0 → ∀ position ∈ extent.grid,
    (extent.neighbor position offset).x = position.x ↔ extent.width = 1
  row : offset.dy ≠ 0 → ∀ position ∈ extent.grid,
    (extent.neighbor position offset).y = position.y ↔ extent.height = 1

theorem translates (extent : Extent) (single : offset.Single) :
    extent.Translates offset where
  neighbor_eq _ onGrid := neighbor_eq_emod onGrid single
  stays _ onGrid := contains_neighbor onGrid single
  undone _ onGrid := neighbor_back onGrid single
  commutes _ onGrid _ nextSingle := neighbor_comm onGrid single nextSingle
  bijective := bijOn_neighbor single
  column moves _ onGrid := by
    rcases contains_iff.1 onGrid with ⟨nonneg, below, -, -⟩
    exact wrapCoordinate_eq_self_iff nonneg below single.1 moves
  row moves _ onGrid := by
    rcases contains_iff.1 onGrid with ⟨-, -, nonneg, below⟩
    exact wrapCoordinate_eq_self_iff nonneg below single.2 moves

end Extent

/-! ## Steps in a world -/

/-- In every world, a step of at most one tile along each axis is a translation
of the torus that the world is laid out on. -/
theorem World.steps_translate {width height : Int} (wide : 1 ≤ width)
    (high : 1 ≤ height) {offset : Offset} (single : offset.Single) :
    Extent.Translates ⟨width, height⟩ offset ∧
      ∀ food, ∃ world, make width height food = .ok world ∧
        ∀ position,
          (world.contains position = true ↔
            position ∈ Extent.grid ⟨width, height⟩) ∧
          world.neighbor position offset =
            Extent.neighbor ⟨width, height⟩ position offset := by
  refine ⟨Extent.translates _ single, ?_⟩
  intro food
  obtain ⟨world, made, extent, -⟩ := exists_make wide high food
  refine ⟨world, made, ?_⟩
  intro position
  rw [← extent]
  exact ⟨Iff.rfl, rfl⟩

/-- A step along both axes where one of them is a single tile long and both
edges of the other lead to the same tile. -/
theorem World.steps_on_two_tiles :
    ((1 : Int) ≤ 1 ∧ (1 : Int) ≤ 2 ∧ Offset.Single ⟨-1, 1⟩) ∧
      Extent.neighbor ⟨1, 2⟩ ⟨0, 1⟩ ⟨-1, 1⟩ = ⟨0, 0⟩ ∧
      Extent.neighbor ⟨1, 2⟩ ⟨0, 1⟩ ⟨1, -1⟩ = ⟨0, 0⟩ ∧
      Extent.Translates ⟨1, 2⟩ ⟨-1, 1⟩ ∧
      ∀ food, ∃ world, make 1 2 food = .ok world ∧
        ∀ position,
          (world.contains position = true ↔
            position ∈ Extent.grid ⟨1, 2⟩) ∧
          world.neighbor position ⟨-1, 1⟩ =
            Extent.neighbor ⟨1, 2⟩ position ⟨-1, 1⟩ := by
  have single : Offset.Single ⟨-1, 1⟩ := by
    simp [Offset.Single]
  refine ⟨⟨by decide, by decide, single⟩, by decide, by decide, ?_⟩
  exact steps_translate (by decide) (by decide) single

end Vivarium
