import Vivarium.Proofs.Ends

/-!
# Loops

What a loop over a list does, from what each of its actions does: conditions
that are kept, and the trace of the states in which the actions begin.
-/

namespace Vivarium

namespace Act

variable {S α β : Type}

/-- The items of a loop, each with the state in which its action begins. An
action that fails ends the loop. -/
def trace (act : β → Act S PUnit) : List β → S → List (β × S)
  | [], _ => []
  | item :: rest, state =>
    (item, state) ::
      match (act item).apply state with
      | (.ok _, after) => trace act rest after
      | (.error _, _) => []

variable {act : β → Act S PUnit} {item : β} {items rest : List β}
  {state after : S}

theorem trace_cons {value : PUnit}
    (applied : (act item).apply state = (.ok value, after)) :
    trace act (item :: rest) state =
      (item, state) :: trace act rest after := by
  rw [trace, applied]

theorem apply_forM_cons {value : PUnit}
    (applied : (act item).apply state = (.ok value, after)) :
    ((item :: rest).forM act).apply state = (rest.forM act).apply after := by
  change (act item >>= fun _ => rest.forM act).apply state = _
  rw [apply_bind, applied]

section Kept

variable {kept : S → Prop} (start : kept state)
  (step : ∀ item ∈ items, ∀ state, kept state →
    (act item).Succeeds state fun _ after => kept after)
include start step

/-- A condition that each action of a loop keeps is kept by the loop. -/
theorem succeeds_forM :
    (items.forM act).Succeeds state fun _ after => kept after := by
  induction items generalizing state with
  | nil =>
      exact start
  | cons item rest inductionHypothesis =>
      have first := step item List.mem_cons_self state start
      change (act item >>= fun _ => rest.forM act).Succeeds state _
      rw [Succeeds, ends_bind]
      refine Succeeds.mono first fun _ after keptAfter => ?_
      exact inductionHypothesis keptAfter fun other member =>
        step other (List.mem_cons_of_mem item member)

/-- It holds whenever an action of the loop begins. -/
theorem kept_of_mem_trace {entry : β × S}
    (member : entry ∈ trace act items state) :
    entry.1 ∈ items ∧ kept entry.2 := by
  induction items generalizing state with
  | nil =>
      cases member
  | cons item rest inductionHypothesis =>
      obtain ⟨value, after, applied, keptAfter⟩ :=
        (step item List.mem_cons_self state start).exists_apply
      rw [trace_cons applied] at member
      rcases List.mem_cons.1 member with rfl | later
      · exact ⟨List.mem_cons_self, start⟩
      · have stepLater : ∀ other ∈ rest, ∀ state, kept state →
            (act other).Succeeds state fun _ after => kept after :=
          fun other inRest => step other (List.mem_cons_of_mem item inRest)
        obtain ⟨inRest, keptThere⟩ :=
          inductionHypothesis keptAfter stepLater later
        exact ⟨List.mem_cons_of_mem item inRest, keptThere⟩

/-- A loop whose actions all go through takes up every item. -/
theorem map_fst_trace : (trace act items state).map Prod.fst = items := by
  induction items generalizing state with
  | nil =>
      rfl
  | cons item rest inductionHypothesis =>
      obtain ⟨value, after, applied, keptAfter⟩ :=
        (step item List.mem_cons_self state start).exists_apply
      rw [trace_cons applied, List.map_cons]
      have restTaken := inductionHypothesis keptAfter fun other member =>
        step other (List.mem_cons_of_mem item member)
      rw [restTaken]

/-- Where a trace is cut, there the loop is cut: what is in front is the trace
of the items in front, and what follows is the trace of the items that follow,
from the state that the action at the cut leaves. -/
theorem split_of_trace {earlier later : List (β × S)} {before : S}
    (cut : trace act items state = earlier ++ (item, before) :: later) :
    ∃ front back after,
      items = front ++ item :: back ∧
        (front.forM act).apply state = (.ok ⟨⟩, before) ∧
        earlier = trace act front state ∧
        (act item).apply before = (.ok ⟨⟩, after) ∧
        later = trace act back after ∧
        (items.forM act).apply state = (back.forM act).apply after := by
  induction items generalizing earlier state with
  | nil =>
      cases earlier <;> cases cut
  | cons head tail inductionHypothesis =>
      obtain ⟨value, next, applied, keptNext⟩ :=
        (step head List.mem_cons_self state start).exists_apply
      rw [trace_cons applied] at cut
      cases earlier with
      | nil =>
          rcases List.cons.inj cut with ⟨⟨rfl, rfl⟩, rfl⟩
          exact ⟨[], tail, next, rfl, rfl, rfl, applied, rfl,
            apply_forM_cons applied⟩
      | cons first initial =>
          rcases List.cons.inj cut with ⟨rfl, cutTail⟩
          obtain ⟨front, back, after, rfl, reached, rfl, taken, rfl, last⟩ :=
            inductionHypothesis keptNext
              (fun other member =>
                step other (List.mem_cons_of_mem head member)) cutTail
          refine ⟨head :: front, back, after, rfl, ?_, ?_, taken, rfl, ?_⟩
          · rw [apply_forM_cons applied, reached]
          · rw [trace_cons applied]
          · rw [apply_forM_cons applied]
            exact last

end Kept

/-- A condition that tells what is still to be done is kept by a loop if each
action keeps it for the items that follow. -/
theorem succeeds_forM_rest (kept : List β → S → Prop)
    (step : ∀ item rest state, kept (item :: rest) state →
      (act item).Succeeds state fun _ after => kept rest after)
    (start : kept items state) :
    (items.forM act).Succeeds state fun _ after => kept [] after := by
  induction items generalizing state with
  | nil =>
      exact start
  | cons item rest inductionHypothesis =>
      change (act item >>= fun _ => rest.forM act).Succeeds state _
      rw [Succeeds, ends_bind]
      refine Succeeds.mono (step item rest state start) ?_
      intro _ after keptAfter
      exact inductionHypothesis keptAfter

/-- Something is there after a loop just if it was there before and no action
of the loop lost it, provided that this is so for each single action. -/
theorem succeeds_forM_present {γ : Type} {thing : γ}
    {lost : β × S → List γ} (kept present : S → Prop) (start : kept state)
    (step : ∀ item ∈ items, ∀ before, kept before →
      (act item).Succeeds before fun _ after =>
        kept after ∧
          (present after ↔
            present before ∧ thing ∉ lost (item, before))) :
    (items.forM act).Succeeds state fun _ after =>
      kept after ∧
        (present after ↔
          present state ∧ thing ∉ (trace act items state).flatMap lost) := by
  induction items generalizing state with
  | nil =>
      refine ⟨start, ?_⟩
      simp [trace]
  | cons item rest inductionHypothesis =>
      obtain ⟨value, next, applied, keptNext, first⟩ :=
        (step item List.mem_cons_self state start).exists_apply
      have others := inductionHypothesis keptNext fun other member =>
        step other (List.mem_cons_of_mem item member)
      rw [Succeeds, Ends, apply_forM_cons applied, trace_cons applied]
      refine Succeeds.mono others ?_
      intro _ last given
      rcases given with ⟨keptLast, remaining⟩
      refine ⟨keptLast, ?_⟩
      rw [remaining, first, List.flatMap_cons, List.mem_append, not_or,
        and_assoc]

/-- What is recorded between two states, if it can be put together. -/
structure Composable {V M : Type} (relates : V → List M → V → Prop) :
    Prop where
  refl : ∀ view, relates view [] view
  trans : ∀ {first middle last early late}, relates first early middle →
    relates middle late last → relates first (early ++ late) last

/-- A loop records what its actions record, one after the other. -/
theorem succeeds_forM_recorded {V M : Type} {relates : V → List M → V → Prop}
    (composable : Composable relates) (kept : S → Prop) (view : S → V)
    (recorded : β → S → List M) (start : kept state)
    (step : ∀ item ∈ items, ∀ before, kept before →
      (act item).Succeeds before fun _ after =>
        kept after ∧
          relates (view before) (recorded item before) (view after)) :
    (items.forM act).Succeeds state fun _ after =>
      kept after ∧
        relates (view state)
          ((trace act items state).flatMap fun entry =>
            recorded entry.1 entry.2)
          (view after) := by
  induction items generalizing state with
  | nil =>
      exact ⟨start, composable.refl (view state)⟩
  | cons item rest inductionHypothesis =>
      obtain ⟨value, next, applied, keptNext, first⟩ :=
        (step item List.mem_cons_self state start).exists_apply
      have others := inductionHypothesis keptNext fun other member =>
        step other (List.mem_cons_of_mem item member)
      rw [Succeeds, Ends, apply_forM_cons applied, trace_cons applied]
      refine Succeeds.mono others ?_
      intro _ last given
      rcases given with ⟨keptLast, second⟩
      rw [List.flatMap_cons]
      exact ⟨keptLast, composable.trans first second⟩

end Act

end Vivarium
