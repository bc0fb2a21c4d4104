import Vivarium.Proofs.Turns

/-!
# Visits

What a round does with one handle of its list. Either the handle no longer
names a creature and nothing happens, or it names one, which gets its turn and
is stored again, or is gone for good.
-/

namespace Vivarium

variable {σ : Type}

namespace Scene

variable {scene after : Scene σ} {handle : Handle} {turn : Turn σ}

def InOrder (scene : Scene σ) : Prop :=
  Consistent scene.world scene.store scene.issued none

theorem InOrder.consistent (inOrder : scene.InOrder) :
    Consistent scene.world scene.store scene.issued none :=
  inOrder

/-- The turn that a handle is given, if it names a creature. -/
def turn? (scene : Scene σ) (handle : Handle) : Option (Turn σ) :=
  (scene.store.get handle).map fun actor =>
    { scene with store := (scene.store.take handle).2, actor }

theorem turn?_eq_none_iff :
    scene.turn? handle = none ↔ scene.store.get handle = none :=
  Option.map_eq_none_iff

theorem turn?_eq_some_iff :
    scene.turn? handle = some turn ↔
      ∃ actor, scene.store.get handle = some actor ∧
        { scene with store := (scene.store.take handle).2, actor } = turn :=
  Option.map_eq_some_iff

/-- The turn of a creature begins in order, under the handle that was
called up. -/
theorem InOrder.opens (inOrder : scene.InOrder)
    (opened : scene.turn? handle = some turn) :
    turn.InOrder ∧ turn.actor.handle = handle ∧
      turn.issued = scene.issued := by
  rcases turn?_eq_some_iff.1 opened with ⟨actor, found, rfl⟩
  have named : actor.handle = handle := (Store.get_eq_some_iff.1 found).2
  exact ⟨inOrder.consistent.take found, named, rfl⟩

/-- A creature whose turn it is holds the slot of its handle. -/
theorem InOrder.holds_opened (inOrder : scene.InOrder)
    (opened : scene.turn? handle = some turn) :
    turn.store.holds handle = true := by
  rcases inOrder.opens opened with ⟨turnInOrder, named, -⟩
  rw [← named]
  exact turnInOrder.consistent.holds_actor

/-- So it does after a turn that it has survived. -/
theorem InOrder.holds_survivor [Dice σ] (inOrder : scene.InOrder)
    (opened : scene.turn? handle = some turn) {finished : Turn σ}
    (played : turn.Played .alive finished) :
    finished.actor.handle = handle ∧
      finished.store.holds handle = true := by
  rcases inOrder.opens opened with ⟨-, named, -⟩
  rcases played.inOrder with ⟨finishedInOrder, sameHandle⟩
  have called : finished.actor.handle = handle := sameHandle.trans named
  refine ⟨called, ?_⟩
  rw [← called]
  exact finishedInOrder.consistent.holds_actor

@[simp]
theorem ends_shared {α : Type} {act : Act (Habitat σ) α}
    {post : α → Scene σ → Prop} {fail : Fault → Scene σ → Prop} :
    (shared act).Ends scene post fail ↔
      act.Ends scene.toHabitat
        (fun value after => post value { scene with toHabitat := after })
        (fun fault after => fail fault { scene with toHabitat := after }) := by
  unfold Act.Ends shared
  rw [Act.apply_ofStep]
  rcases act.apply scene.toHabitat with ⟨_ | _, _⟩ <;> rfl

private theorem ends_take {post : Option Creature → Scene σ → Prop}
    {fail : Fault → Scene σ → Prop} :
    (shared (Habitat.take handle)).Ends scene post fail ↔
      post (scene.store.get handle)
        { scene with store := (scene.store.take handle).2 } := by
  rw [ends_shared, Habitat.take, Act.ends_modifyGet, Store.fst_take]

private theorem succeeds_bury (inOrder : turn.InOrder)
    (named : turn.actor.handle = handle) :
    (bury handle turn.actor).Succeeds turn.toScene fun _ after =>
      after =
        { turn.toScene with
          world := turn.world.setOccupant turn.actor.position none
          store := (turn.store.release handle).2 } := by
  rcases World.exists_tile? inOrder.onGrid with ⟨tile, found⟩
  have kept := inOrder.consistent.holds_actor
  rw [named] at kept
  rw [bury, Act.Succeeds, Act.ends_bind, ends_shared,
    Habitat.ends_inspect found, Act.ends_bind, ends_shared,
    Habitat.ends_occupy, Act.ends_bind, ends_shared]
  refine (Habitat.ends_release ?_).2 ?_
  · exact kept
  · exact rfl

section Visits

variable [Dice σ]

inductive Visited (scene : Scene σ) (handle : Handle) : Scene σ → Prop where
  | gone (missing : scene.turn? handle = none) : Visited scene handle scene
  | survived {turn after : Turn σ}
      (opened : scene.turn? handle = some turn)
      (went : Turn.play.apply turn = (.ok .alive, after))
      (played : turn.Played .alive after) :
      Visited scene handle
        { after.toScene with store := after.store.set handle after.actor }
  | starved {turn after : Turn σ}
      (opened : scene.turn? handle = some turn)
      (went : Turn.play.apply turn = (.ok .dead, after))
      (played : turn.Played .dead after)
      (lively : turn.actor.energy ≠ 0) :
      Visited scene handle after.toScene
  | faded {turn : Turn σ}
      (opened : scene.turn? handle = some turn)
      (went : Turn.play.apply turn = (.ok .dead, turn))
      (spent : turn.actor.energy = 0) :
      Visited scene handle
        { turn.toScene with
          world := turn.world.setOccupant turn.actor.position none
          store := (turn.store.release handle).2 }

/-- A handle that names nobody is passed over: not even a die is rolled. -/
theorem apply_playHandle_gone (missing : scene.turn? handle = none) :
    (playHandle handle).apply scene = (.ok (), scene) := by
  have unknown := turn?_eq_none_iff.1 missing
  have passed :
      (playHandle handle).Succeeds scene fun _ after => after = scene := by
    rw [playHandle, Act.Succeeds, Act.ends_bind, ends_take, unknown,
      Store.take_eq_of_none unknown]
    exact rfl
  rcases passed.exists_apply with ⟨_, after, applied, rfl⟩
  exact applied

/-- What remains to be done after a turn that went through. -/
theorem ends_playHandle {life : Life} {finished : Turn σ}
    (opened : scene.turn? handle = some turn)
    (went : Turn.play.apply turn = (.ok life, finished))
    {post : Unit → Scene σ → Prop} {fail : Fault → Scene σ → Prop} :
    (playHandle handle).Ends scene post fail ↔
      (settle handle life finished.actor).Ends finished.toScene post
        fail := by
  rcases turn?_eq_some_iff.1 opened with ⟨actor, found, rfl⟩
  have acted :
      (act actor).apply
          { scene with store := (scene.store.take handle).2 } =
        (.ok (life, finished.actor), finished.toScene) := by
    rw [act, Act.apply_ofStep, went]
    rfl
  rw [playHandle, Act.ends_bind, ends_take, found]
  dsimp only
  rw [Act.ends_bind, Act.Ends, acted]

inductive Closed (turn finished : Turn σ) : Life → Scene σ → Prop where
  | stored :
      Closed turn finished .alive
        { finished.toScene with
          store := finished.store.set turn.actor.handle finished.actor }
  | gone (lively : turn.actor.energy ≠ 0) :
      Closed turn finished .dead finished.toScene
  | buried (spent : turn.actor.energy = 0) (idle : finished = turn) :
      Closed turn finished .dead
        { turn.toScene with
          world := turn.world.setOccupant turn.actor.position none
          store := (turn.store.release turn.actor.handle).2 }

/-- The dead that are still out have not starved in their turn. -/
theorem succeeds_settle (inOrder : turn.InOrder) {life : Life}
    {finished : Turn σ} (played : turn.Played life finished) :
    (settle turn.actor.handle life finished.actor).Succeeds
      finished.toScene fun _ after => Closed turn finished life after := by
  cases life with
  | alive =>
      exact Closed.stored
  | dead =>
      rw [settle, Act.Succeeds, Act.ends_bind, Act.ends_get]
      cases played with
      | faded spent =>
          have isOut : turn.store.isOut turn.actor.handle = true :=
            Store.isOut_iff.2 inOrder.consistent.slot_actor
          rw [if_pos isOut]
          refine (succeeds_bury inOrder rfl).mono ?_
          intro _ after same
          subst same
          exact Closed.buried spent rfl
      | ended lively ran follows upkeep =>
          have gone := upkeep.consistent follows.inOrder
          have notOut :
              ¬ finished.store.isOut turn.actor.handle = true := by
            rw [gone.isOut_eq_false]
            exact Bool.false_ne_true
          rw [if_neg notOut]
          exact Closed.gone lively

/-- From a scene that is in order every visit goes through. -/
theorem succeeds_playHandle (inOrder : scene.InOrder) (handle : Handle) :
    (playHandle handle).Succeeds scene fun _ after =>
      Visited scene handle after := by
  cases opened : scene.turn? handle with
  | none =>
      exact Act.succeeds_of_apply (apply_playHandle_gone opened)
        (Visited.gone opened)
  | some turn =>
      rcases inOrder.opens opened with ⟨turnInOrder, named, -⟩
      obtain ⟨life, finished, went, played⟩ :=
        (Turn.succeeds_play turnInOrder).exists_apply
      have settled := succeeds_settle turnInOrder played
      rw [named] at settled
      rw [Act.Succeeds, ends_playHandle opened went]
      refine settled.mono ?_
      intro _ after closed
      cases closed with
      | stored =>
          rw [named]
          exact Visited.survived opened went played
      | gone lively =>
          exact Visited.starved opened went played lively
      | buried spent idle =>
          subst idle
          rw [named]
          exact Visited.faded opened went spent

theorem Visited.inOrder (inOrder : scene.InOrder)
    (visited : Visited scene handle after) : after.InOrder := by
  cases visited with
  | gone missing =>
      exact inOrder
  | survived opened went played =>
      rcases inOrder.opens opened with ⟨-, named, -⟩
      rcases played.inOrder with ⟨afterInOrder, sameHandle⟩
      have stored := afterInOrder.consistent.put
      rw [sameHandle, named] at stored
      exact stored
  | starved opened went played lively =>
      exact played.consistent lively
  | faded opened went spent =>
      rcases inOrder.opens opened with ⟨turnInOrder, named, -⟩
      have removed := turnInOrder.consistent.removeActor
      rw [named] at removed
      exact removed

/-! ## Rounds -/

/-- The visits of a round, each with the scene in which it begins. -/
def visits (scene : Scene σ) (handles : List Handle) :
    List (Handle × Scene σ) :=
  Act.trace playHandle handles scene

section Rounds

variable {handles : List Handle} (kept : Scene σ → Prop)
  (inOrder : scene.InOrder) (start : kept scene)
  (step : ∀ {before handle after}, before.InOrder →
    Visited before handle after → kept before → kept after)
include step

/-- One visit, at any time in the round. -/
private theorem succeeds_playHandle_of_kept :
    ∀ handle ∈ handles, ∀ before : Scene σ,
      before.InOrder ∧ kept before →
        (playHandle handle).Succeeds before fun _ after =>
          after.InOrder ∧ kept after := by
  intro handle _ before reached
  rcases reached with ⟨beforeInOrder, keptBefore⟩
  refine (succeeds_playHandle beforeInOrder handle).mono ?_
  intro _ after visited
  exact ⟨visited.inOrder beforeInOrder, step beforeInOrder visited keptBefore⟩

include inOrder start

/-- A round goes through, and what each visit keeps is kept. -/
theorem succeeds_playAll_kept :
    (playAll handles).Succeeds scene fun _ after =>
      after.InOrder ∧ kept after :=
  Act.succeeds_forM ⟨inOrder, start⟩ (succeeds_playHandle_of_kept kept step)

theorem kept_of_mem_visits {visit : Handle × Scene σ}
    (member : visit ∈ scene.visits handles) :
    visit.1 ∈ handles ∧ visit.2.InOrder ∧ kept visit.2 :=
  Act.kept_of_mem_trace ⟨inOrder, start⟩
    (succeeds_playHandle_of_kept kept step) member

end Rounds

theorem succeeds_playAll (inOrder : scene.InOrder) (handles : List Handle) :
    (playAll handles).Succeeds scene fun _ after => after.InOrder := by
  refine (succeeds_playAll_kept (fun _ => True) inOrder trivial
    fun _ _ _ => trivial).mono ?_
  intro _ after reached
  exact reached.1

theorem inOrder_of_mem_visits (inOrder : scene.InOrder)
    {handles : List Handle} {visit : Handle × Scene σ}
    (member : visit ∈ scene.visits handles) :
    visit.1 ∈ handles ∧ visit.2.InOrder := by
  obtain ⟨listed, visitInOrder, -⟩ :=
    kept_of_mem_visits (fun _ => True) inOrder trivial
      (fun _ _ _ => trivial) member
  exact ⟨listed, visitInOrder⟩

end Visits

end Scene

end Vivarium
