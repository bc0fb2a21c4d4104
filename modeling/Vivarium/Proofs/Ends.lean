import Vivarium.Act

/-!
# How actions end

A condition on what an action answers and leaves, and one on what it leaves
when it fails. The equations below turn the condition of a composed action
into conditions of its parts, so that the course of an action is worked out
by rewriting.
-/

namespace Vivarium

namespace Act

variable {S α β : Type}

/-- An action carried out in a state meets one condition if it goes through
and another one if it fails. -/
def Ends (act : Act S α) (state : S) (post : α → S → Prop)
    (fail : Fault → S → Prop) : Prop :=
  match act.apply state with
  | (.ok value, after) => post value after
  | (.error fault, after) => fail fault after

abbrev Succeeds (act : Act S α) (state : S) (post : α → S → Prop) : Prop :=
  act.Ends state post fun _ _ => False

section Steps

variable {post : α → S → Prop} {fail : Fault → S → Prop} {state : S}

@[simp]
theorem ends_pure {value : α} :
    (pure value : Act S α).Ends state post fail ↔ post value state :=
  Iff.rfl

@[simp]
theorem ends_get {post : S → S → Prop} :
    (get : Act S S).Ends state post fail ↔ post state state :=
  Iff.rfl

@[simp]
theorem ends_modify {change : S → S} {post : PUnit → S → Prop} :
    (modify change : Act S PUnit).Ends state post fail ↔
      post ⟨⟩ (change state) :=
  Iff.rfl

@[simp]
theorem ends_modifyGet {step : S → α × S} :
    (modifyGet step : Act S α).Ends state post fail ↔
      post (step state).1 (step state).2 :=
  Iff.rfl

@[simp]
theorem ends_bind {act : Act S α} {next : α → Act S β}
    {post : β → S → Prop} :
    (act >>= next).Ends state post fail ↔
      act.Ends state (fun value after => (next value).Ends after post fail)
        fail := by
  rw [Ends, apply_bind]
  unfold Ends
  rcases act.apply state with ⟨_ | _, _⟩ <;> rfl

theorem ends_liftM {check : Except Fault α} {value : α}
    (passed : check = .ok value) :
    (liftM check : Act S α).Ends state post fail ↔ post value state := by
  rw [Ends, apply_liftM, passed]

theorem ends_ofStep {step : S → Except Fault α × S} {value : α} {after : S}
    (taken : step state = (.ok value, after)) :
    (ofStep step).Ends state post fail ↔ post value after := by
  rw [Ends, apply_ofStep, taken]

theorem ends_ofStep_error {step : S → Except Fault α × S} {fault : Fault}
    {after : S} (failed : step state = (.error fault, after)) :
    (ofStep step).Ends state post fail ↔ fail fault after := by
  rw [Ends, apply_ofStep, failed]

end Steps

section Conclusions

variable {act : Act S α} {state : S} {post : α → S → Prop}
  {fail : Fault → S → Prop}

theorem Ends.mono (ended : act.Ends state post fail)
    {post' : α → S → Prop} {fail' : Fault → S → Prop}
    (weaker : ∀ value after, post value after → post' value after)
    (weakerFail : ∀ fault after, fail fault after → fail' fault after) :
    act.Ends state post' fail' := by
  unfold Ends at ended ⊢
  rcases applied : act.apply state with ⟨fault | value, after⟩
  · rw [applied] at ended
    exact weakerFail fault after ended
  · rw [applied] at ended
    exact weaker value after ended

theorem Succeeds.mono (ended : act.Succeeds state post)
    {post' : α → S → Prop}
    (weaker : ∀ value after, post value after → post' value after) :
    act.Succeeds state post' :=
  Ends.mono ended weaker fun _ _ impossible => impossible

theorem Succeeds.exists_apply (ended : act.Succeeds state post) :
    ∃ value after, act.apply state = (.ok value, after) ∧
      post value after := by
  unfold Succeeds Ends at ended
  rcases applied : act.apply state with ⟨fault | value, after⟩
  · rw [applied] at ended
    exact ended.elim
  · rw [applied] at ended
    exact ⟨value, after, rfl, ended⟩

theorem succeeds_of_apply {value : α} {after : S}
    (applied : act.apply state = (.ok value, after))
    (holds : post value after) :
    act.Succeeds state post := by
  rw [Succeeds, Ends, applied]
  exact holds

/-- What holds of every end of an action holds of the state it leaves. -/
theorem Ends.of_apply (ended : act.Ends state post fail)
    {result : Except Fault α} {after : S}
    (applied : act.apply state = (result, after)) :
    match result with
    | .ok value => post value after
    | .error fault => fail fault after := by
  unfold Ends at ended
  rw [applied] at ended
  cases result <;> exact ended

end Conclusions

end Act

end Vivarium
