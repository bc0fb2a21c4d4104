import Mathlib.Logic.Function.Iterate
import Vivarium.Proofs.Reachable
import Vivarium.Run

/-!
# Runs in parts

A run of so many rounds can be cut in two. A first part that ends early has
found nobody left; then the second part finds nobody either, and but for an
announcement nothing tells the two from a single run. The statistics go by the
rounds of the simulation and not by those of a call, so they do not notice the
cut.
-/

namespace Vivarium

open Act

variable {σ : Type}

namespace Engine

open Habitat

variable [Dice σ] {engine middle after : Engine σ}

/-! ## After the last round -/

/-- A round has found that nobody is left. -/
structure Over (engine : Engine σ) : Prop where
  deserted : engine.store.handles = []
  unoccupied : engine.world.occupiedCount = 0
  extinct : engine.extinct = true

/-- Another round only announces itself. -/
private theorem Over.apply_advance (isOver : engine.Over) :
    advance.apply engine = (.ok false, engine.announced) := by
  have sameNumber : ¬ engine.store.handles.length ≠
      engine.world.occupiedCount := by
    rw [isOver.deserted, isOver.unoccupied]
    exact not_not_intro rfl
  have idle : advance.Succeeds engine fun answer after =>
      answer = false ∧ after = engine.announced := by
    rw [advance, Succeeds, ends_bind, ends_get]
    dsimp only
    rw [ends_bind, ends_shared, ends_note, if_neg sameNumber,
      if_pos (List.isEmpty_iff.2 isOver.deserted), isOver.extinct]
    refine ⟨rfl, ?_⟩
    rw [announced, ← isOver.extinct]
  obtain ⟨_, _, applied, rfl, rfl⟩ := idle.exists_apply
  exact applied

omit [Dice σ] in
theorem Over.announced (isOver : engine.Over) : engine.announced.Over :=
  ⟨isOver.deserted, isOver.unoccupied, isOver.extinct⟩

/-- So many rounds go through, each of them with its statistics. -/
inductive Rounds : Engine σ → Nat → Engine σ → Prop where
  | none {engine : Engine σ} : Rounds engine 0 engine
  | more {engine middle next after : Engine σ} {count : Nat}
      (ran : advance.apply engine = (.ok true, middle))
      (noted : noteStats.apply middle = (.ok (), next))
      (later : Rounds next count after) : Rounds engine (count + 1) after

private theorem inOrder_of_round {next : Engine σ} {result : Except Fault Unit}
    (inOrder : engine.toHabitat.InOrder) {answer : Bool}
    (ran : advance.apply engine = (.ok answer, middle))
    (noted : noteStats.apply middle = (result, next)) :
    next.toHabitat.InOrder := by
  have advanced : Advanced engine answer middle :=
    (succeeds_advance inOrder).of_apply ran
  have notes := noted_noteStats middle
  rw [noted] at notes
  exact notes.inOrder (advanced.inOrder inOrder)

theorem Rounds.inOrder {count : Nat} (rounds : Rounds engine count after)
    (inOrder : engine.toHabitat.InOrder) : after.toHabitat.InOrder := by
  induction rounds with
  | none =>
      exact inOrder
  | more ran noted later inductionHypothesis =>
      exact inductionHypothesis (inOrder_of_round inOrder ran noted)

inductive Stopped (engine : Engine σ) (limit : Nat) :
    Except Fault Nat → Engine σ → Prop where
  | full {after : Engine σ} (rounds : Rounds engine limit after) :
      Stopped engine limit (.ok limit) after
  | early {completed : Nat} {last after : Engine σ}
      (rounds : Rounds engine completed last) (few : completed < limit)
      (ran : advance.apply last = (.ok false, after)) :
      Stopped engine limit (.ok completed) after
  | overflowed {completed : Nat} {last after : Engine σ} {fault : Fault}
      (rounds : Rounds engine completed last) (few : completed < limit)
      (ran : advance.apply last = (.ok true, after))
      (noted : noteStats.apply after = (.error fault, after))
      (excess : fault = .quotientOverflow ∨ fault = .longFigure) :
      Stopped engine limit (.error fault) after

theorem Stopped.later {next : Engine σ} {limit : Nat}
    {result : Except Fault Nat}
    (ran : advance.apply engine = (.ok true, middle))
    (noted : noteStats.apply middle = (.ok (), next))
    (stopped : Stopped next limit result after) :
    Stopped engine (limit + 1) (result.map (1 + ·)) after := by
  cases stopped with
  | full rounds =>
      rw [Except.map, Nat.add_comm 1 limit]
      exact .full (.more ran noted rounds)
  | @early completed last _ rounds few last_ran =>
      rw [Except.map, Nat.add_comm 1 completed]
      exact .early (.more ran noted rounds) (Nat.succ_lt_succ few) last_ran
  | overflowed rounds few last_ran last_noted excess =>
      exact .overflowed (.more ran noted rounds) (Nat.succ_lt_succ few)
        last_ran last_noted excess

/-- The rounds that are given to a run are added to what it answers, and that
is all they do. -/
private theorem apply_runRounds_given
    (limit completed : Nat) (engine : Engine σ) :
    (runRounds limit completed).apply engine =
      (((runRounds limit 0).apply engine).1.map (completed + ·),
        ((runRounds limit 0).apply engine).2) := by
  induction limit generalizing completed engine with
  | zero =>
      rfl
  | succ limit inductionHypothesis =>
      rw [runRounds, runRounds, apply_bind, apply_bind]
      rcases advance.apply engine with ⟨fault | goesOn, middle⟩
      · rfl
      · cases goesOn with
        | false =>
            rfl
        | true =>
            dsimp only
            rw [if_pos rfl, if_pos rfl, apply_bind, apply_bind]
            rcases noteStats.apply middle with ⟨fault | ⟨⟩, next⟩
            · rfl
            · dsimp only
              rw [inductionHypothesis (completed + 1),
                inductionHypothesis (0 + 1)]
              rcases (runRounds limit 0).apply next with
                ⟨fault | rounds, last⟩
              · rfl
              · simp only [Except.map]
                congr 2
                omega

/-- Rounds that go through are only counted, whatever follows them. -/
theorem Rounds.apply_runRounds {count : Nat}
    (rounds : Rounds engine count after) (further : Nat) :
    (runRounds (count + further) 0).apply engine =
      (((runRounds further 0).apply after).1.map (count + ·),
        ((runRounds further 0).apply after).2) := by
  induction rounds with
  | none =>
      rw [Nat.zero_add]
      exact apply_runRounds_given further 0 _
  | @more engine middle next after count ran noted later
      inductionHypothesis =>
      rw [Nat.add_right_comm, runRounds, apply_bind, ran]
      dsimp only
      rw [if_pos rfl, apply_bind, noted]
      dsimp only
      rw [apply_runRounds_given, inductionHypothesis]
      rcases (runRounds further 0).apply after with ⟨fault | rest, last⟩
      · rfl
      · simp only [Except.map]
        congr 2
        omega

theorem apply_run (patience limit : Nat) (engine : Engine σ) :
    (run patience (some limit)).apply engine =
      (runRounds limit 0).apply engine :=
  rfl

end Engine

namespace Habitat

/-- The notices for a reader who does not ask for the details. -/
def bulletins (habitat : Habitat σ) : List Notice :=
  habitat.journal.filter fun notice => Level.info.shows notice.level

end Habitat

namespace Engine

/-- The same simulation, down to its dice, but for notices that are
details. -/
structure Akin (engine other : Engine σ) : Prop where
  rest : other = { engine with journal := other.journal }
  bulletins : other.bulletins = engine.bulletins

variable {engine middle : Engine σ}

theorem Akin.refl (engine : Engine σ) : engine.Akin engine :=
  ⟨rfl, rfl⟩

private theorem akin_announced
    (engine : Engine σ) : engine.Akin engine.announced :=
  ⟨rfl, rfl⟩

variable [Dice σ]

/-- A run after the last round does not get beyond its first one. -/
theorem Over.apply_run (isOver : engine.Over) (patience limit : Nat) :
    ∃ last, (run patience (some limit)).apply engine = (.ok 0, last) ∧
      engine.Akin last := by
  cases limit with
  | zero =>
      exact ⟨engine, rfl, .refl engine⟩
  | succ limit =>
      refine ⟨engine.announced, ?_, akin_announced engine⟩
      rw [Engine.apply_run, runRounds, apply_bind, isOver.apply_advance]
      rfl

end Engine

end Vivarium
