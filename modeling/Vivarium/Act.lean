import Vivarium.Fault

/-!
# Actions

An action works on a state and may fail. What it has changed before it fails
stays changed: there is no way back.
-/

namespace Vivarium

/-- An action on states of one type. -/
abbrev Act (S : Type) := ExceptT Fault (StateM S)

namespace Act

/-- The action that a function on states describes. -/
@[inline] def ofStep {S α : Type} (step : S → Except Fault α × S) : Act S α :=
  ExceptT.mk fun state => step state

/-- Carries out an action: its answer or its fault, and the state that is
left. -/
@[inline] def apply {S α : Type} (act : Act S α) (state : S) :
    Except Fault α × S :=
  StateT.run (ExceptT.run act) state

theorem apply_ofStep {S α : Type} (step : S → Except Fault α × S) (state : S) :
    (ofStep step).apply state = step state :=
  rfl

theorem apply_get {S : Type} (state : S) :
    (get : Act S S).apply state = (.ok state, state) :=
  rfl

/-- A check changes nothing, whatever it answers. -/
theorem apply_liftM {S α : Type} (check : Except Fault α) (state : S) :
    (liftM check : Act S α).apply state = (check, state) := by
  cases check <;> rfl

theorem apply_bind {S α β : Type} (act : Act S α) (next : α → Act S β)
    (state : S) :
    (act >>= next).apply state =
      match act.apply state with
      | (.ok value, state) => (next value).apply state
      | (.error fault, state) => (.error fault, state) := by
  simp only [apply, ExceptT.run_bind, StateT.run_bind]
  rcases StateT.run (ExceptT.run act) state with ⟨_ | _, _⟩ <;> rfl

end Act

end Vivarium
