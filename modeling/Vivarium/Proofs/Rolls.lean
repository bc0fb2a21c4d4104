import Vivarium.Dice

/-!
# Rolls

What is remembered of a roll, and dice that show given sides. Together they
tell which rolls an action makes, and that each of them can be made.
-/

namespace Vivarium

namespace Dice

/-- Whatever the source, a roll shows one of the sides and is remembered. -/
theorem roll_recorded {τ : Type} [Dice τ] (dice : Recorded τ) {sides : Nat}
    (positive : 0 < sides) :
    ∃ (face : Fin sides) (source : τ), roll dice sides positive =
      (face, (⟨source, ⟨sides - 1, face⟩ :: dice.draws⟩ : Recorded τ)) :=
  ⟨_, _, rfl⟩

/-- A script shows the side that it lists, if the die has it. -/
theorem roll_script {values : Array Nat} {position value sides : Nat}
    (shown : values[position]? = some value) (inside : value < sides)
    (positive : 0 < sides) (draws : List Draw) :
    roll (⟨⟨values, position⟩, draws⟩ : Recorded Script) sides positive =
      (⟨value, inside⟩,
        ⟨⟨values, position + 1⟩, ⟨sides - 1, value⟩ :: draws⟩) := by
  obtain ⟨bound, -⟩ := Array.getElem?_eq_some_iff.1 shown
  have next : (⟨values, position⟩ : Script).next % sides = value := by
    rw [Script.next, Nat.mod_eq_of_lt bound, Array.getD_eq_getD_getElem?,
      shown, Option.getD_some, Nat.mod_eq_of_lt inside]
  subst next
  rfl

end Dice

/-- The dice that show the sides of some draws, one after the other. -/
def Script.ofDraws (draws : List Draw) : Script :=
  ⟨(draws.map Draw.value).toArray, 0⟩

end Vivarium
