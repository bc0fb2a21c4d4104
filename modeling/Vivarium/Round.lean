import Vivarium.Turn

/-!
# Rounds

One turn for each creature of a list, in the order of the list. A creature is
out of the store while it acts. A survivor goes back into its slot; the dead
have released theirs, except those that were dead before they could act.
-/

namespace Vivarium

namespace Scene

open Habitat

variable {σ : Type}

/-- A turn of a creature that is out of the store: what becomes of it, and
the creature as the turn leaves it. -/
def act [Dice σ] (actor : Creature) : Act (Scene σ) (Life × Creature) :=
  Act.ofStep fun scene =>
    let (life, turn) := Turn.play.apply { scene with actor }
    (life.map fun life => (life, turn.actor), turn.toScene)

/-- Removes a creature that died without starving: its tile is vacated and
its slot released. -/
def bury (handle : Handle) (creature : Creature) : Act (Scene σ) Unit := do
  let _ ← shared (inspect creature.position)
  shared (occupy creature.position none)
  let _ ← shared (release handle)

def settle (handle : Handle) (life : Life) (creature : Creature) :
    Act (Scene σ) Unit := do
  match life with
  | .alive => shared (put handle creature)
  | .dead =>
    if (← get).store.isOut handle then
      bury handle creature

def playHandle [Dice σ] (handle : Handle) : Act (Scene σ) Unit := do
  match ← shared (take handle) with
  | none => return
  | some actor =>
    let (life, creature) ← act actor
    settle handle life creature

def playAll [Dice σ] (handles : List Handle) : Act (Scene σ) Unit :=
  handles.forM playHandle

end Scene

end Vivarium
