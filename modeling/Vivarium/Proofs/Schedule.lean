import Vivarium.Proofs.Presence
import Vivarium.Proofs.Reachable

/-!
# The schedule of a round

Who gets a turn in a round, and in which order. The list of the handles is
drawn up at the start of the round; slots that are given up meanwhile may be
used again, but their new creatures bear new stamps, so no handle of the list
ever leads to one of them.
-/

namespace Vivarium

variable {σ : Type} [Dice σ]

namespace Scene

variable {scene after : Scene σ} {handle other : Handle} {turn : Turn σ}

/-! ## Visits -/

def slainBy (visit : Handle × Scene σ) : List Handle :=
  (visit.2.turn? visit.1).toList.flatMap Turn.slain

private theorem slainBy_of_none (missing : scene.turn? handle = none) :
    slainBy (handle, scene) = [] := by
  rw [slainBy, missing]
  rfl

private theorem slainBy_of_some (opened : scene.turn? handle = some turn) :
    slainBy (handle, scene) = turn.slain := by
  rw [slainBy, opened]
  exact List.flatMap_singleton _ _

omit [Dice σ] in
/-- Checking out one creature hides no other. -/
private theorem InOrder.mem_handles_opens (inOrder : scene.InOrder)
    (opened : scene.turn? handle = some turn) (different : other ≠ handle) :
    other ∈ turn.store.handles ↔ other ∈ scene.store.handles := by
  rcases inOrder.opens opened with ⟨turnInOrder, -, -⟩
  rcases turn?_eq_some_iff.1 opened with ⟨actor, found, rfl⟩
  exact inOrder.consistent.mem_handles_congr turnInOrder.consistent
    (Store.get_take_of_ne found different)

/-- A visit takes away nobody else but those that are struck dead in it. -/
theorem Visited.mem_handles_iff (inOrder : scene.InOrder)
    (visited : Visited scene handle after) (different : other ≠ handle)
    (old : other.generation < scene.issued) :
    other ∈ after.store.handles ↔
      other ∈ scene.store.handles ∧ other ∉ slainBy (handle, scene) := by
  have afterInOrder := visited.inOrder inOrder
  cases visited with
  | gone missing =>
      rw [slainBy_of_none missing]
      simp
  | @survived turn finished opened went played =>
      rcases inOrder.opens opened with ⟨turnInOrder, -, sameIssued⟩
      rcases inOrder.holds_survivor opened played with ⟨called, kept⟩
      rcases played.inOrder with ⟨finishedInOrder, -⟩
      have stored :=
        finishedInOrder.consistent.mem_handles_congr afterInOrder.consistent
          (Store.get_set_of_ne kept called different)
      rw [stored, slainBy_of_some opened,
        ← inOrder.mem_handles_opens opened different]
      rw [← sameIssued] at old
      exact played.mem_handles_iff turnInOrder old
  | @starved turn finished opened went played lively =>
      rcases inOrder.opens opened with ⟨turnInOrder, -, sameIssued⟩
      rw [slainBy_of_some opened,
        ← inOrder.mem_handles_opens opened different]
      rw [← sameIssued] at old
      exact played.mem_handles_iff turnInOrder old
  | @faded turn opened went spent =>
      rcases inOrder.opens opened with ⟨turnInOrder, -, sameIssued⟩
      have kept := inOrder.holds_opened opened
      have released :=
        turnInOrder.consistent.mem_handles_congr afterInOrder.consistent
          (Store.get_release_of_ne kept different)
      rw [released, slainBy_of_some opened,
        ← inOrder.mem_handles_opens opened different]
      rw [← sameIssued] at old
      exact (Turn.Played.faded spent).mem_handles_iff turnInOrder old

/-- After its own visit a creature is there just if it has survived. -/
private theorem Visited.mem_handles_self (inOrder : scene.InOrder)
    (visited : Visited scene handle after)
    (opened : scene.turn? handle = some turn) :
    ∃ life finished, Turn.play.apply turn = (.ok life, finished) ∧
      (handle ∈ after.store.handles ↔ life = .alive) := by
  have afterInOrder := visited.inOrder inOrder
  rw [afterInOrder.consistent.mem_handles_iff]
  rcases inOrder.opens opened with ⟨-, named, -⟩
  cases visited with
  | gone missing =>
      rw [missing] at opened
      cases opened
  | @survived turn' finished opened' went played =>
      obtain rfl := Option.some.inj (opened.symm.trans opened')
      rcases inOrder.holds_survivor opened played with ⟨called, kept⟩
      have known := Store.get_set (Store.lt_count_of_holds kept) called
      exact ⟨.alive, finished, went, fun _ => rfl,
        fun _ => ⟨finished.actor, known⟩⟩
  | @starved turn' finished opened' went played lively =>
      obtain rfl := Option.some.inj (opened.symm.trans opened')
      refine ⟨.dead, finished, went, ?_, nofun⟩
      intro given
      rcases given with ⟨creature, known⟩
      cases played with
      | faded spent =>
          exact absurd spent lively
      | ended lively ran follows upkeep =>
          have called := follows.handle.trans named
          rw [upkeep.get_eq follows.inOrder, ← called,
            follows.inOrder.consistent.get_actor] at known
          cases known
  | @faded turn' opened' went spent =>
      obtain rfl := Option.some.inj (opened.symm.trans opened')
      refine ⟨.dead, turn, went, ?_, nofun⟩
      intro given
      rcases given with ⟨creature, known⟩
      have kept := inOrder.holds_opened opened
      have lost := (Store.get_release_self kept).symm.trans known
      cases lost

theorem Visited.issued_le (inOrder : scene.InOrder)
    (visited : Visited scene handle after) :
    scene.issued ≤ after.issued := by
  cases visited with
  | gone missing =>
      exact Nat.le_refl _
  | survived opened went played | starved opened went played lively =>
      rcases inOrder.opens opened with ⟨turnInOrder, -, sameIssued⟩
      rw [← sameIssued]
      exact played.issued_le turnInOrder
  | faded opened went spent =>
      rcases inOrder.opens opened with ⟨-, -, sameIssued⟩
      exact Nat.le_of_eq sameIssued.symm

/-! ## Rounds -/

/-- A handle that is not called up is lost to nothing but the attacks of the
round. -/
private theorem mem_handles_playAll (inOrder : scene.InOrder)
    {handles : List Handle} (idle : handle ∉ handles)
    (old : handle.generation < scene.issued)
    (played : (playAll handles).apply scene = (.ok (), after)) :
    (after.InOrder ∧ scene.issued ≤ after.issued) ∧
      (handle ∈ after.store.handles ↔
        handle ∈ scene.store.handles ∧
          handle ∉ (scene.visits handles).flatMap slainBy) := by
  have step : ∀ called ∈ handles, ∀ before : Scene σ,
      before.InOrder ∧ scene.issued ≤ before.issued →
        (playHandle called).Succeeds before fun _ later =>
          (later.InOrder ∧ scene.issued ≤ later.issued) ∧
            (handle ∈ later.store.handles ↔
              handle ∈ before.store.handles ∧
                handle ∉ slainBy (called, before)) := by
    intro called member before given
    rcases given with ⟨beforeInOrder, notBefore⟩
    refine (succeeds_playHandle beforeInOrder called).mono ?_
    intro _ later visited
    have different : handle ≠ called := by
      intro same
      subst same
      exact idle member
    refine ⟨⟨visited.inOrder beforeInOrder, ?_⟩, ?_⟩
    · exact Nat.le_trans notBefore (visited.issued_le beforeInOrder)
    · exact visited.mem_handles_iff beforeInOrder different
        (Nat.lt_of_lt_of_le old notBefore)
  exact (Act.succeeds_forM_present
    (fun later => later.InOrder ∧ scene.issued ≤ later.issued)
    (fun later => handle ∈ later.store.handles)
    ⟨inOrder, Nat.le_refl _⟩ step).of_apply played

/-- From a scene that is in order every visit leads to one that is. -/
private theorem succeeds_playHandle_inOrder {handles : List Handle} :
    ∀ handle ∈ handles, ∀ before : Scene σ, before.InOrder →
      (playHandle handle).Succeeds before fun _ after => after.InOrder := by
  intro handle _ before beforeInOrder
  refine (succeeds_playHandle beforeInOrder handle).mono ?_
  intro _ after visited
  exact visited.inOrder beforeInOrder

end Scene

/-! ## The schedule -/

namespace Engine

/-- The visits of the next round, each with the scene in which it begins. -/
def visits (engine : Engine σ) : List (Handle × Scene σ) :=
  engine.opening.visits engine.store.handles

def turns (engine : Engine σ) : List (Turn σ) :=
  engine.visits.filterMap fun (handle, scene) => scene.turn? handle

/-- The course of the next round of a simulation. -/
structure Scheduled (engine : Engine σ) : Prop where
  /-- The round is nothing but these visits, its notices apart. -/
  whole : ∃ scene journal,
    (Scene.playAll engine.store.handles).apply engine.opening =
        (.ok (), scene) ∧
      (advance.apply engine).2.toHabitat =
        { scene.toHabitat with journal := journal }
  listed : engine.visits.map Prod.fst = engine.store.handles
  /-- One that an earlier attack has killed gets no turn and rolls no die. -/
  skipped : ∀ {earlier later handle scene},
    engine.visits = earlier ++ (handle, scene) :: later →
      handle ∈ earlier.flatMap Scene.slainBy →
        scene.turn? handle = none ∧
          (Scene.playHandle handle).apply scene = (.ok (), scene)
  /-- All others get theirs. A survivor is found in its slot at the end of the
  round unless a later attack has killed it. -/
  called : ∀ {earlier later handle scene},
    engine.visits = earlier ++ (handle, scene) :: later →
      handle ∉ earlier.flatMap Scene.slainBy →
        ∃ turn life finished,
          scene.turn? handle = some turn ∧
            turn.actor.handle = handle ∧
            Turn.play.apply turn = (.ok life, finished) ∧
            ((∃ creature,
                (advance.apply engine).2.store.get handle =
                  some creature) ↔
              life = .alive ∧ handle ∉ later.flatMap Scene.slainBy)
  ascending : (engine.turns.map fun turn => turn.actor.handle).Pairwise
    fun left right => left.slot < right.slot
  /-- Nobody who is born in the round gets a turn in it. -/
  unborn : ∀ child ∈ engine.turns.flatMap Turn.children,
    child ∉ engine.store.handles ∧
      ∀ turn ∈ engine.turns, turn.actor.handle ≠ child

variable {engine : Engine σ}

/-- What a round leaves is what its visits leave, the notices apart. -/
theorem exists_final (inOrder : engine.toHabitat.InOrder) :
    ∃ final journal,
      (Scene.playAll engine.store.handles).apply engine.opening =
          (.ok (), final) ∧
        final.InOrder ∧
        (advance.apply engine).2.toHabitat =
          { final.toHabitat with journal := journal } := by
  obtain ⟨answer, after, applied, advanced⟩ :=
    (succeeds_advance inOrder).exists_apply
  rw [applied]
  cases advanced with
  | idle empty journal =>
      refine ⟨engine.opening, journal, ?_, inOrder, rfl⟩
      rw [empty]
      rfl
  | @went scene _ played sceneInOrder =>
      exact ⟨scene, scene.journal, played, sceneInOrder, rfl⟩

private theorem map_fst_visits (inOrder : engine.toHabitat.InOrder) :
    engine.visits.map Prod.fst = engine.store.handles := by
  have openingInOrder : engine.opening.InOrder := inOrder
  exact Act.map_fst_trace openingInOrder Scene.succeeds_playHandle_inOrder

/-- A turn of the round is that of a creature that was called up. -/
theorem exists_visit_of_mem_turns (inOrder : engine.toHabitat.InOrder)
    {turn : Turn σ} (member : turn ∈ engine.turns) :
    ∃ visit ∈ engine.visits, visit.2.turn? visit.1 = some turn ∧
      turn.InOrder ∧ turn.actor.handle = visit.1 ∧
      turn.issued = visit.2.issued := by
  rcases List.mem_filterMap.1 member with ⟨visit, listed, opened⟩
  have openingInOrder : engine.opening.InOrder := inOrder
  obtain ⟨-, visitInOrder⟩ :=
    Scene.inOrder_of_mem_visits openingInOrder listed
  exact ⟨visit, listed, opened, visitInOrder.opens opened⟩

theorem pairwise_turns (inOrder : engine.toHabitat.InOrder) :
    (engine.turns.map fun turn => turn.actor.handle).Pairwise
      fun left right => left.slot < right.slot := by
  have order := inOrder.consistent.pairwise_handles
  rw [← map_fst_visits inOrder, List.pairwise_map] at order
  rw [List.pairwise_map, turns, List.pairwise_filterMap]
  refine order.imp_of_mem ?_
  intro left right leftListed rightListed ascending first firstOpened
    second secondOpened
  have openingInOrder : engine.opening.InOrder := inOrder
  obtain ⟨-, leftInOrder⟩ :=
    Scene.inOrder_of_mem_visits openingInOrder leftListed
  obtain ⟨-, rightInOrder⟩ :=
    Scene.inOrder_of_mem_visits openingInOrder rightListed
  rcases leftInOrder.opens firstOpened with ⟨-, firstNamed, -⟩
  rcases rightInOrder.opens secondOpened with ⟨-, secondNamed, -⟩
  rw [firstNamed, secondNamed]
  exact ascending

/-- The children of a round bear stamps that were not used before it. -/
private theorem issued_le_of_mem_children (inOrder : engine.toHabitat.InOrder)
    {child : Handle} (born : child ∈ engine.turns.flatMap Turn.children) :
    engine.issued ≤ child.generation := by
  rcases List.mem_flatMap.1 born with ⟨turn, member, bornThere⟩
  obtain ⟨visit, listed, -, turnInOrder, -, sameIssued⟩ :=
    exists_visit_of_mem_turns inOrder member
  have openingInOrder : engine.opening.InOrder := inOrder
  obtain ⟨-, -, notBefore⟩ :=
    Scene.kept_of_mem_visits (fun later => engine.issued ≤ later.issued)
      openingInOrder (Nat.le_refl _)
      (fun beforeInOrder visited same =>
        Nat.le_trans same (visited.issued_le beforeInOrder)) listed
  rw [← sameIssued] at notBefore
  exact Nat.le_trans notBefore
    (Turn.issued_le_of_mem_children turnInOrder bornThere)

omit [Dice σ] in
/-- The stamps of the stored creatures have been used. -/
private theorem generation_lt_issued (inOrder : engine.toHabitat.InOrder)
    {handle : Handle} (listed : handle ∈ engine.store.handles) :
    handle.generation < engine.issued := by
  have consistent := inOrder.consistent
  rcases consistent.mem_handles_iff.1 listed with ⟨creature, known⟩
  have stamped :=
    consistent.settled.stamped (consistent.resident_of_get known).1
  rw [(Store.get_eq_some_iff.1 known).2] at stamped
  exact stamped

/-- What a visit finds and what becomes of its creature. -/
theorem course_of_visit (inOrder : engine.toHabitat.InOrder)
    {scene final : Scene σ}
    (played :
      (Scene.playAll engine.store.handles).apply engine.opening =
        (.ok (), final))
    {earlier later : List (Handle × Scene σ)} {handle : Handle}
    (cut : engine.visits = earlier ++ (handle, scene) :: later) :
    scene.InOrder ∧
      (handle ∈ scene.store.handles ↔
        handle ∉ earlier.flatMap Scene.slainBy) ∧
      ∀ turn, scene.turn? handle = some turn →
        ∃ life finished, Turn.play.apply turn = (.ok life, finished) ∧
          (handle ∈ final.store.handles ↔
            life = .alive ∧ handle ∉ later.flatMap Scene.slainBy) := by
  have openingInOrder : engine.opening.InOrder := inOrder
  obtain ⟨front, back, after, split, reached, rfl, taken, rfl, last⟩ :=
    Act.split_of_trace openingInOrder Scene.succeeds_playHandle_inOrder cut
  have listed : handle ∈ engine.store.handles := by
    rw [split]
    exact List.mem_append_right front List.mem_cons_self
  have old := generation_lt_issued inOrder listed
  have nodup := inOrder.consistent.nodup_handles
  rw [split, List.nodup_append, List.nodup_cons] at nodup
  rcases nodup with ⟨-, ⟨notBack, -⟩, apart⟩
  have notFront : handle ∉ front := fun member =>
    apart handle member handle List.mem_cons_self rfl
  obtain ⟨⟨sceneInOrder, notBefore⟩, present⟩ :=
    Scene.mem_handles_playAll openingInOrder notFront old reached
  refine ⟨sceneInOrder, ?_, ?_⟩
  · rw [present]
    exact and_iff_right listed
  · intro turn opened
    have visited : scene.Visited handle after :=
      (Scene.succeeds_playHandle sceneInOrder handle).of_apply taken
    obtain ⟨life, finished, went, survived⟩ :=
      visited.mem_handles_self sceneInOrder opened
    have oldAfter : handle.generation < after.issued :=
      Nat.lt_of_lt_of_le old
        (Nat.le_trans notBefore (visited.issued_le sceneInOrder))
    have rest : (Scene.playAll back).apply after = (.ok (), final) :=
      last.symm.trans played
    obtain ⟨-, remains⟩ :=
      Scene.mem_handles_playAll (visited.inOrder sceneInOrder) notBack
        oldAfter rest
    refine ⟨life, finished, went, ?_⟩
    rw [remains, survived]
    exact Iff.rfl

theorem round_scheduled (reachable : Reachable engine) :
    Scheduled engine where
  whole := by
    obtain ⟨final, journal, played, -, same⟩ :=
      exists_final reachable.inOrder
    exact ⟨final, journal, played, same⟩
  listed := map_fst_visits reachable.inOrder
  skipped := by
    intro earlier later handle scene cut slain
    rcases exists_final reachable.inOrder with ⟨final, journal, played, -, -⟩
    obtain ⟨sceneInOrder, present, -⟩ :=
      course_of_visit reachable.inOrder played cut
    have missing : scene.turn? handle = none := by
      by_contra opened
      rcases Option.ne_none_iff_exists'.1 opened with ⟨turn, opened⟩
      rcases Scene.turn?_eq_some_iff.1 opened with ⟨actor, known, -⟩
      have listed := sceneInOrder.consistent.mem_handles_iff.2 ⟨actor, known⟩
      exact present.1 listed slain
    exact ⟨missing, Scene.apply_playHandle_gone missing⟩
  called := by
    intro earlier later handle scene cut spared
    obtain ⟨final, journal, played, finalInOrder, same⟩ :=
      exists_final reachable.inOrder
    obtain ⟨sceneInOrder, present, course⟩ :=
      course_of_visit reachable.inOrder played cut
    obtain ⟨actor, known⟩ :=
      sceneInOrder.consistent.mem_handles_iff.1 (present.2 spared)
    have opened :=
      Scene.turn?_eq_some_iff.2 ⟨actor, known, rfl⟩
    rcases sceneInOrder.opens opened with ⟨-, named, -⟩
    rcases course _ opened with ⟨life, finished, went, remains⟩
    refine ⟨_, life, finished, opened, named, went, ?_⟩
    rw [same, ← remains]
    exact finalInOrder.consistent.mem_handles_iff.symm
  ascending := pairwise_turns reachable.inOrder
  unborn := by
    intro child born
    have new := issued_le_of_mem_children reachable.inOrder born
    have unlisted : child ∉ engine.store.handles := fun listed =>
      absurd (generation_lt_issued reachable.inOrder listed)
        (Nat.not_lt.2 new)
    refine ⟨unlisted, ?_⟩
    intro turn member same
    subst same
    obtain ⟨visit, visited, -, -, named, -⟩ :=
      exists_visit_of_mem_turns reachable.inOrder member
    rw [named, ← map_fst_visits reachable.inOrder] at unlisted
    exact unlisted (List.mem_map_of_mem visited)

/-- Two neighbours, of which the first kills the second before its turn. -/
theorem duel_scheduled :
    ∃ engine : Engine Script, engine.visits.length = 2 ∧
      engine.turns.length = 1 ∧ Scheduled engine := by
  let config := { twoTiles with initialPopulation := 0 }
  let attacker (start : Engine Script) :=
    ((shared (Habitat.place ⟨0, 0⟩ [.gene .attack] 50 .midpoint)).apply
      start).2
  let victim (start : Engine Script) :=
    ((shared (Habitat.place ⟨1, 0⟩ [.gene .nop] 10 .midpoint)).apply
      start).2
  obtain ⟨start, made⟩ :=
    exists_make_unseeded (show config.validate = .ok () from rfl)
      (⟨#[0], 0⟩ : Script) 0 ""
  have figures :
      ((make config none (⟨#[0], 0⟩ : Script) 0 "").toOption.map
        fun start =>
          (start.world.tile? ⟨0, 0⟩, (attacker start).world.tile? ⟨1, 0⟩,
            (victim (attacker start)).visits.length,
            (victim (attacker start)).turns.length)) =
        some (some ⟨50, none⟩, some ⟨50, none⟩, 2, 1) := by
    decide +kernel
  rw [made] at figures
  rcases Prod.mk.inj (Option.some.inj figures) with ⟨home, figures⟩
  rcases Prod.mk.inj figures with ⟨east, figures⟩
  rcases Prod.mk.inj figures with ⟨visited, played⟩
  have bytes : Sensors.midpoint.InRange := by
    unfold Sensors.InRange
    decide
  have armed : Reachable (attacker start) :=
    (Reachable.made made).place home rfl rfl (by decide) bytes
  have paired : Reachable (victim (attacker start)) :=
    armed.place east rfl rfl (by decide) bytes
  exact ⟨victim (attacker start), visited, played, round_scheduled paired⟩

end Engine

end Vivarium
