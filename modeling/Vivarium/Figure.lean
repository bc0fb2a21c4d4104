import Vivarium.Fault
import Vivarium.Text.Integer

/-!
# Figures

Numbers as they are written into texts: in decimal, and only as long as they
can be read back.

What a host hands in may be too long: the food and the energy that it chooses,
its coordinates and its seed, and the handles that it makes up. What the
simulation counts is not, since nothing counts that far: rounds, creatures,
slots, drawn stamps, and the width and the height of a grid that stands. A round
tells of counted numbers only.
-/

namespace Vivarium

namespace Figure

/-- The least number that is too long to be written. -/
@[irreducible]
def bound : Nat := Nat.pow 10 Text.maxDigits

/-- A number can be written. -/
def Short (value : Int) : Prop :=
  value.natAbs < bound

instance (value : Int) : Decidable (Short value) :=
  inferInstanceAs (Decidable (_ < _))

def text (value : Int) : Except Fault String :=
  if Short value then .ok (toString value) else .error .longFigure

theorem text_of_short {value : Int} (short : Short value) :
    text value = .ok (toString value) :=
  if_pos short

theorem text_of_long {value : Int} (long : ¬ Short value) :
    text value = .error .longFigure :=
  if_neg long

theorem not_short_bound : ¬ Short bound := by
  rw [Short, Int.natAbs_natCast]
  exact Nat.lt_irrefl bound

end Figure

end Vivarium
