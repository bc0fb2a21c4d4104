import Vivarium.Proofs.Mirrors

/-!
# Keeping the books

Any number of stores that share one count of stamps, each with its register.
As long as the calls are in order the registers tell all that the stores
answer, one call after another, in whatever order the stores are called.
-/

namespace Vivarium

variable {ι : Type} [DecidableEq ι]

/-- Calls that are in order one after another, from a count of stamps on, what
the registers answer to them, and the names under which they enter what is
allocated. -/
inductive Booked :
    Nat → (ι → Register) → List (ι × Operation) → List Answer →
      List Handle → (ι → Register) → Prop where
  | done (issued : Nat) (registers : ι → Register) :
      Booked issued registers [] [] [] registers
  | call {issued : Nat} {registers final : ι → Register} {index : ι}
      {operation : Operation} (next : Handle)
      {calls : List (ι × Operation)} {answers : List Answer}
      {names : List Handle}
      (admitted : (registers index).Admits operation)
      (rest :
        Booked (issued + (operation.drawn next).length)
          (Function.update registers index
            ((registers index).perform issued next operation).2)
          calls answers names final) :
      Booked issued registers ((index, operation) :: calls)
        (((registers index).perform issued next operation).1 :: answers)
        (operation.drawn next ++ names) final

variable {issued : Nat} {registers final : ι → Register} {depot : Depot ι}
  {calls : List (ι × Operation)} {answers : List Answer}
  {names : List Handle}

/-- The books of all stores stay right through a call of one of them. -/
theorem Mirrors.perform_depot
    (mirrors : ∀ index, Mirrors (registers index) (depot.stores index))
    {index : ι} {operation : Operation}
    (admitted : (registers index).Admits operation) (other : ι) :
    Mirrors
      (Function.update registers index
        ((registers index).perform depot.issued (depot.nextHandle index)
          operation).2 other)
      ((depot.perform index operation).2.stores other) := by
  by_cases here : other = index
  · subst here
    rw [Function.update_self, Depot.stores_perform_self]
    exact ((mirrors other).perform depot.issued admitted).2
  · rw [Function.update_of_ne here, Depot.stores_perform_of_ne here]
    exact mirrors other

namespace Booked

/-- The count goes on with the name that is entered. -/
theorem issued_perform {index : ι} {operation : Operation} {next : Handle}
    (sameNext :
      operation.drawn next = operation.drawn (depot.nextHandle index)) :
    (depot.perform index operation).2.issued =
      depot.issued + (operation.drawn next).length := by
  rw [sameNext, Depot.issued_perform]

theorem answers_eq (booked : Booked issued registers calls answers names final)
    (counted : depot.issued = issued)
    (mirrors : ∀ index, Mirrors (registers index) (depot.stores index))
    (named : names = depot.drawn calls) :
    depot.answers calls = answers ∧
      (∀ handles, .listed handles ∈ answers →
        handles.Pairwise fun left right => left.slot < right.slot) ∧
      ∀ index,
        Mirrors (final index) ((depot.after calls).stores index) := by
  induction booked generalizing depot with
  | done issued registers =>
      exact ⟨rfl, nofun, mirrors⟩
  | @call issued registers final index operation next calls answers names
      admitted rest inductionHypothesis =>
      subst counted
      rcases Operation.drawn_append_inj named with ⟨sameNext, named⟩
      have sameStep :=
        Register.perform_congr sameNext (registers index) depot.issued
      have counted := issued_perform sameNext
      rw [sameStep] at inductionHypothesis
      have answered := ((mirrors index).perform depot.issued admitted).1
      rcases inductionHypothesis counted
        (Mirrors.perform_depot mirrors admitted) named with
        ⟨sameAnswers, ordered, atLast⟩
      refine ⟨?_, ?_, atLast⟩
      · rw [sameStep, ← sameAnswers]
        exact congrArg (· :: _) answered
      · intro handles listed
        rcases List.mem_cons.1 listed with first | later
        · rw [sameStep] at first
          exact (mirrors index).pairwise_listed (answered.trans first.symm)
        · exact ordered handles later

/-- The books go on with any call that is in order. -/
theorem snoc (booked : Booked issued registers calls answers names final)
    {index : ι} {operation : Operation} (next : Handle)
    (admitted : (final index).Admits operation) :
    Booked issued registers (calls ++ [(index, operation)])
      (answers ++
        [((final index).perform (issued + names.length) next operation).1])
      (names ++ operation.drawn next)
      (Function.update final index
        ((final index).perform (issued + names.length) next
          operation).2) := by
  induction booked with
  | done issued registers =>
      rw [List.nil_append, ← List.append_nil (operation.drawn next)]
      exact .call next admitted (.done _ _)
  | call earlier first rest inductionHypothesis =>
      rw [List.append_assoc, List.length_append, ← Nat.add_assoc]
      exact .call earlier first (inductionHypothesis admitted)

/-- Calls that write no creature of the caller's are always in order. -/
theorem exists_of_calls
    (free : ∀ call ∈ calls, ∀ register : Register, register.Admits call.2)
    (registers : ι → Register) (depot : Depot ι) :
    ∃ answers final,
      Booked depot.issued registers calls answers (depot.drawn calls)
        final := by
  induction calls generalizing registers depot with
  | nil =>
      exact ⟨[], registers, .done _ registers⟩
  | cons call calls inductionHypothesis =>
      have admitted := free call List.mem_cons_self (registers call.1)
      have later := fun other member =>
        free other (List.mem_cons_of_mem call member)
      rcases inductionHypothesis later
        (Function.update registers call.1
          ((registers call.1).perform depot.issued (depot.nextHandle call.1)
            call.2).2)
        (depot.perform call.1 call.2).2 with ⟨answers, final, rest⟩
      rw [Depot.issued_perform] at rest
      exact ⟨_, final, .call _ admitted rest⟩

end Booked

/-- Stores that share one count of stamps answer as registers do, whatever
is called as long as it is in order. No two allocations return the same
stamp. A handle that a register does not have is released by nothing, and is
not even answered when it leads to a slot and was made up with a stamp that
cannot be written. -/
theorem Depot.answers_as_registers (issued : Nat)
    (booked : Booked issued (fun _ => .empty) calls answers
      ((Depot.opened issued).drawn calls) final) :
    (Depot.opened issued).answers calls = answers ∧
      (∀ handles, .listed handles ∈ answers →
        handles.Pairwise fun left right => left.slot < right.slot) ∧
      ((Depot.opened issued).drawn calls).Pairwise
        (fun earlier later => earlier.generation < later.generation) ∧
      ∀ index operation, (final index).Admits operation →
        ∃ answer revised,
          Booked issued (fun _ => .empty) (calls ++ [(index, operation)])
            (answers ++ [answer])
            ((Depot.opened issued).drawn (calls ++ [(index, operation)]))
            revised := by
  rcases booked.answers_eq rfl (fun _ => Mirrors.empty) rfl with
    ⟨sameAnswers, ordered, -⟩
  refine ⟨sameAnswers, ordered, Depot.pairwise_drawn _ calls, ?_⟩
  intro index operation admitted
  have further := booked.snoc
    (((Depot.opened issued).after calls).nextHandle index) admitted
  rw [← Depot.drawn_singleton, ← Depot.drawn_append] at further
  exact ⟨_, _, further⟩

/-- Two stores, one of which uses a slot again. Two handles are made up. -/
theorem Depot.answers_reused :
    let creature : Creature := { (default : Creature) with handle := ⟨0, 0⟩ }
    let calls : List (Bool × Operation) :=
      [(true, .allocate), (true, .set ⟨0, 0⟩ creature), (false, .allocate),
        (true, .take ⟨0, 0⟩), (true, .isOut ⟨0, 0⟩),
        (false, .deallocate ⟨0, 0⟩), (true, .deallocate ⟨0, 0⟩),
        (true, .addCreature ⟨0, 0⟩ []), (true, .allocate),
        (true, .get ⟨0, 0⟩), (true, .deallocate ⟨1, 9⟩),
        (true, .deallocate ⟨1, Figure.bound⟩), (true, .handles)]
    let answers : List Answer :=
      [.named ⟨0, 0⟩, .done, .named ⟨0, 1⟩, .found (some creature),
        .verdict true, .verdict false, .verdict true,
        .refused (.programSize 0), .named ⟨1, 3⟩, .found none,
        .verdict false, .refused .longFigure, .listed []]
    ∃ final,
      Booked 0 (fun _ => .empty) calls answers
        ((Depot.opened 0).drawn calls) final ∧
      (Depot.opened 0).answers calls = answers := by
  intro creature calls answers
  have booked : ∃ answers final,
      Booked 0 (fun _ => .empty) calls answers
        ((Depot.opened 0).drawn calls) final := by
    have writing : ((Register.empty.reserve ⟨0, 0⟩).Admits
        (.set ⟨0, 0⟩ creature)) :=
      ⟨rfl, Or.inl (Finset.mem_singleton_self _)⟩
    have later : ∀ call ∈ calls.drop 2, ∀ register : Register,
        register.Admits call.2 := by
      simp [calls, Register.Admits]
    rcases Booked.exists_of_calls later _
      ((Depot.opened 0).after (calls.take 2)) with ⟨_, final, rest⟩
    exact ⟨_, final, .call ⟨0, 0⟩ trivial (.call ⟨0, 0⟩ writing rest)⟩
  rcases booked with ⟨given, final, booked⟩
  have same := (Depot.answers_as_registers 0 booked).1
  have computed : (Depot.opened 0).answers calls = answers := by
    decide +kernel
  rw [← same, computed] at booked
  exact ⟨final, booked, computed⟩

/-- No map has a handle that somebody made up, and yet it is not answered that
nothing was released. -/
theorem Depot.forged_deallocate_refused :
    let forged : Handle := ⟨0, Figure.bound⟩
    let register := (Register.empty.perform 0 ⟨0, 0⟩ .allocate).2
    let depot := (Depot.opened 0).after [((), .allocate)]
    forged ∉ register.entries ∧
      (depot.perform () (.deallocate forged)).1 = .refused .longFigure ∧
      (depot.perform () (.deallocate forged)).1 ≠ .verdict false := by
  intro forged register depot
  have refused :
      (depot.perform () (.deallocate forged)).1 = .refused .longFigure := by
    decide +kernel
  refine ⟨Finmap.notMem_empty, refused, ?_⟩
  rw [refused]
  exact nofun

end Vivarium
