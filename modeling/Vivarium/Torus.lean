/-!
# Positions on a torus

A grid of `width × height` tiles whose opposite edges are joined: a single
step that leaves the grid on one side enters it again on the other.
-/

namespace Vivarium

/-- A place on, or off, the grid. `x` grows eastwards and `y` southwards. -/
structure Position where
  x : Int
  y : Int
deriving DecidableEq, Inhabited

/-- A displacement. The steps of the simulation have both components in
`{-1, 0, 1}`. -/
structure Offset where
  dx : Int
  dy : Int
deriving DecidableEq, Inhabited

structure Extent where
  width : Int
  height : Int
deriving DecidableEq, Inhabited

/-- Brings one coordinate back into `[0, bound)` after a single step: a
negative one enters again at the far end, one that has reached the bound at
its excess over the bound. -/
def wrapCoordinate (value bound : Int) : Int :=
  if value < 0 then bound - 1
  else if bound ≤ value then value - bound
  else value

namespace Extent

def contains (extent : Extent) (position : Position) : Bool :=
  decide (0 ≤ position.x ∧ position.x < extent.width ∧
    0 ≤ position.y ∧ position.y < extent.height)

/-- The position one step away, across the joined edges if need be. -/
def neighbor
    (extent : Extent) (position : Position) (offset : Offset) :
    Position where
  x := wrapCoordinate (position.x + offset.dx) extent.width
  y := wrapCoordinate (position.y + offset.dy) extent.height

def area (extent : Extent) : Int :=
  extent.width * extent.height

theorem contains_iff {extent : Extent} {position : Position} :
    extent.contains position = true ↔
      0 ≤ position.x ∧ position.x < extent.width ∧
        0 ≤ position.y ∧ position.y < extent.height := by
  simp [contains]

end Extent

end Vivarium
