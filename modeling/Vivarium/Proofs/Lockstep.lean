import Mathlib.Data.List.Forall2
import Vivarium.Proofs.Ends

/-!
# Two actions in step

Two actions that are carried out side by side, each in its own state: when the
states are alike to begin with, both go through or neither does, and what they
answer and leave is alike again. The rules below follow the way actions are
composed.
-/

namespace Vivarium

namespace Act

variable {S T α β γ δ : Type} {kin : S → T → Prop}
  {same : α → β → Prop} {excuse : Fault → Fault → Prop}

inductive Alike (same : α → β → Prop) (excuse : Fault → Fault → Prop) :
    Except Fault α → Except Fault β → Prop where
  | ok {value : α} {value' : β} (alike : same value value') :
      Alike same excuse (.ok value) (.ok value')
  | error {fault fault' : Fault} (alike : excuse fault fault') :
      Alike same excuse (.error fault) (.error fault')

/-- Carried out in two states that are alike, two actions have results that
are alike, and leave states that are. -/
def InStep (kin : S → T → Prop) (same : α → β → Prop)
    (excuse : Fault → Fault → Prop) (act : Act S α) (act' : Act T β) : Prop :=
  ∀ state state', kin state state' →
    Alike same excuse (act.apply state).1 (act'.apply state').1 ∧
      kin (act.apply state).2 (act'.apply state').2

theorem inStep_pure {value : α} {value' : β} (alike : same value value') :
    InStep kin same excuse (pure value) (pure value') :=
  fun _ _ related => ⟨.ok alike, related⟩

theorem inStep_throw {fault fault' : Fault} (alike : excuse fault fault') :
    InStep kin same excuse (throw fault) (throw fault') :=
  fun _ _ related => ⟨.error alike, related⟩

theorem inStep_get : InStep kin kin excuse get get :=
  fun _ _ related => ⟨.ok related, related⟩

theorem inStep_modify {change : S → S} {change' : T → T}
    (alike : ∀ state state', kin state state' →
      kin (change state) (change' state')) :
    InStep kin (fun _ _ => True) excuse (modify change) (modify change') :=
  fun state state' related => ⟨.ok trivial, alike state state' related⟩

theorem inStep_modifyGet {step : S → α × S} {step' : T → β × T}
    (alike : ∀ state state', kin state state' →
      same (step state).1 (step' state').1 ∧
        kin (step state).2 (step' state').2) :
    InStep kin same excuse (modifyGet step) (modifyGet step') := by
  intro state state' related
  rcases alike state state' related with ⟨answers, left⟩
  exact ⟨.ok answers, left⟩

theorem Alike.refl (reflexive : ∀ fault, excuse fault fault)
    (result : Except Fault α) : Alike Eq excuse result result := by
  cases result with
  | error fault => exact .error (reflexive fault)
  | ok value => exact .ok rfl

theorem Alike.eq_map {translate : α → β} {result : Except Fault α}
    {result' : Except Fault β}
    (alike : Alike (fun value value' => value' = translate value) Eq result
      result') : result' = result.map translate := by
  cases alike with
  | ok same => rw [same]; rfl
  | error same => rw [same]; rfl

theorem inStep_liftM (reflexive : ∀ fault, excuse fault fault)
    (check : Except Fault α) :
    InStep kin Eq excuse (liftM check) (liftM check) := by
  intro state state' related
  rw [apply_liftM, apply_liftM]
  exact ⟨.refl reflexive check, related⟩

theorem InStep.bind {act : Act S α} {act' : Act T β}
    (first : InStep kin same excuse act act') {later : γ → δ → Prop}
    {next : α → Act S γ} {next' : β → Act T δ}
    (rest : ∀ value value', same value value' →
      InStep kin later excuse (next value) (next' value')) :
    InStep kin later excuse (act >>= next) (act' >>= next') := by
  intro state state' related
  have middle := first state state' related
  rw [apply_bind, apply_bind]
  generalize act.apply state = ended at middle ⊢
  generalize act'.apply state' = ended' at middle ⊢
  rcases ended with ⟨result, after⟩
  rcases ended' with ⟨result', after'⟩
  rcases middle with ⟨answers, relatedAfter⟩
  cases answers with
  | ok alike => exact rest _ _ alike _ _ relatedAfter
  | error alike => exact ⟨.error alike, relatedAfter⟩

/-- When what follows does not look at the answers, they do not matter. -/
theorem InStep.andThen {act : Act S α} {act' : Act T β}
    (first : InStep kin same excuse act act') {later : γ → δ → Prop}
    {next : Act S γ} {next' : Act T δ}
    (rest : InStep kin later excuse next next') :
    InStep kin later excuse (act >>= fun _ => next)
      (act' >>= fun _ => next') :=
  first.bind fun _ _ _ => rest

/-- Two loops over lists whose items correspond are in step when their actions
are. -/
theorem inStep_forM {items : List α} {items' : List β}
    {act : α → Act S PUnit} {act' : β → Act T PUnit}
    (corresponding : List.Forall₂ same items items')
    (step : ∀ item item', same item item' →
      InStep kin (fun _ _ => True) excuse (act item) (act' item')) :
    InStep kin (fun _ _ => True) excuse (items.forM act)
      (items'.forM act') := by
  induction corresponding with
  | nil =>
      exact inStep_pure trivial
  | cons alike _ inductionHypothesis =>
      exact (step _ _ alike).bind fun _ _ _ => inductionHypothesis

/-- When the first of two actions is known to go through, so does the
second. -/
theorem InStep.exists_apply {act : Act S α} {act' : Act T β}
    (inStep : InStep kin same excuse act act') {state after : S} {state' : T}
    (related : kin state state') {value : α}
    (applied : act.apply state = (.ok value, after)) :
    ∃ value' after', act'.apply state' = (.ok value', after') ∧
      same value value' ∧ kin after after' := by
  have ended := inStep state state' related
  rw [applied] at ended
  generalize act'.apply state' = ended' at ended ⊢
  rcases ended' with ⟨result', after'⟩
  rcases ended with ⟨⟨alike⟩, left⟩
  exact ⟨_, _, rfl, alike, left⟩

/-- Two actions whose results are equal rather than alike. -/
theorem InStep.exists_result {act : Act S α} {act' : Act T α}
    (inStep : InStep kin Eq Eq act act') {state : S} {state' : T}
    (related : kin state state') :
    ∃ result after after', act.apply state = (result, after) ∧
      act'.apply state' = (result, after') ∧ kin after after' := by
  have ended := inStep state state' related
  generalize act.apply state = left at ended ⊢
  generalize act'.apply state' = right at ended ⊢
  rcases left with ⟨result, after⟩
  rcases right with ⟨result', after'⟩
  rcases ended with ⟨⟨rfl⟩ | ⟨rfl⟩, remains⟩
  · exact ⟨_, after, after', rfl, rfl, remains⟩
  · exact ⟨_, after, after', rfl, rfl, remains⟩

end Act

end Vivarium
