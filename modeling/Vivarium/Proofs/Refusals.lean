import Vivarium.Proofs.Arrivals
import Vivarium.Proofs.Vacancies

/-!
# Refused newborns

A slot is reserved for a newborn before anyone looks at its program. When the
program is refused the handle of the slot is told to nobody, so the slot is
neither used nor given back: a refusal does what an allocation does, and what
it takes is lost for good. The grid is not touched.
-/

namespace Vivarium

/-! ## Refused programs -/

namespace Codon

def Refused (program : List Codon) : Prop :=
  program = [] ∨ Gene.maxProgram < program.length ∨
    ∃ codon ∈ program, codon.isGene = false

/-- What is said against such a program. Its length counts first. -/
inductive Objection (program : List Codon) : Fault → Prop where
  | size
      (missized : ¬ (1 ≤ program.length ∧
        program.length ≤ Gene.maxProgram)) :
      Objection program (.programSize program.length)
  | foreign {codon : Codon}
      (sized : 1 ≤ program.length ∧ program.length ≤ Gene.maxProgram)
      (listed : codon ∈ program) (foreign : codon.isGene = false) :
      Objection program (Fault.foreignCodon codon).raised

variable {program : List Codon} {fault : Fault}

private theorem not_refused (admitted : checkProgram program = .ok ()) :
    ¬ Refused program := by
  obtain ⟨nonempty, short, native⟩ := checkProgram_eq_ok_iff.1 admitted
  rintro (rfl | long | ⟨codon, listed, foreign⟩)
  · exact Nat.not_succ_le_zero 0 nonempty
  · exact Nat.not_le.2 long short
  · rw [native codon listed] at foreign
    cases foreign

private theorem objection_of_error
    (checked : checkProgram program = .error fault) :
    Objection program fault := by
  unfold checkProgram at checked
  split at checked
  · next sized =>
    split at checked
    · next codon found =>
      cases checked
      have foreign := List.find?_some found
      rw [Bool.not_eq_true'] at foreign
      exact .foreign sized (List.mem_of_find?_eq_some found) foreign
    · cases checked
  · next missized =>
    cases checked
    exact .size missized

theorem Refused.exists_objection (refused : Refused program) :
    ∃ fault, checkProgram program = .error fault ∧
      Objection program fault := by
  cases checked : checkProgram program with
  | ok =>
      exact absurd refused (not_refused checked)
  | error fault =>
      exact ⟨fault, rfl, objection_of_error checked⟩

end Codon

private theorem Creature.newborn_of_error {program : List Codon} {fault : Fault}
    (checked : Codon.checkProgram program = .error fault) (handle : Handle)
    (position : Position) :
    newborn handle position program = .error fault := by
  rw [newborn, make, checked]
  rfl

/-! ## Lost slots -/

namespace Operation

def Avoids (index : Nat) : Operation → Prop
  | set handle _ => handle.slot ≠ index
  | _ => True

end Operation

namespace Store

variable {store : Store} {issued index : Nat} {handle : Handle}

/-- A slot that holds nothing and does not wait to be used. -/
structure Lost (store : Store) (index : Nat) : Prop where
  bound : index < store.count
  vacant : store.slot index = .vacant
  unlisted : index ∉ store.free

namespace Lost

/-- Nobody can give it back. -/
private theorem not_holds
    (lost : store.Lost index) (named : handle.slot = index) :
    store.holds handle = false := by
  rw [holds_eq_false_iff, named, lost.vacant]
  exact nofun

theorem deallocate_eq (lost : store.Lost index) (named : handle.slot = index)
    (issued : Nat) :
    store.deallocate issued handle =
      (if handle.isWritable issued then .ok false else .error .longFigure,
        store) := by
  have nowhere := lost.not_holds named
  refine Prod.ext ?_ ?_
  · rw [fst_deallocate, nowhere, named]
    cases handle.isWritable issued <;> simp [lost.bound]
  · rw [snd_deallocate, release_eq_of_not_holds nowhere]

private theorem slot_ne_of_holds (lost : store.Lost index)
    (kept : store.holds handle = true) : handle.slot ≠ index := by
  intro here
  rw [lost.not_holds here] at kept
  cases kept

private theorem slot_ne_of_get (lost : store.Lost index) {creature : Creature}
    (found : store.get handle = some creature) : handle.slot ≠ index :=
  lost.slot_ne_of_holds (holds_of_get found)

private theorem nextHandle_ne (lost : store.Lost index) (issued : Nat) :
    (store.nextHandle issued).slot ≠ index := by
  intro here
  rcases reserves_allocate store issued with ⟨popped, -⟩ | ⟨-, -, last, -⟩
  · refine lost.unlisted ?_
    rw [popped, ← here]
    exact List.mem_cons_self
  · have last : (store.nextHandle issued).slot = store.count := last
    exact Nat.ne_of_lt lost.bound (here.symm.trans last)

theorem reserve (lost : store.Lost index) (issued : Nat) :
    (store.reserve issued).Lost index where
  bound := by
    rw [count_reserve]
    exact Nat.lt_of_lt_of_le lost.bound (Nat.le_add_right _ _)
  vacant := (slot_allocate store issued index).trans lost.vacant
  unlisted listed := by
    rcases reserves_allocate store issued with ⟨popped, -⟩ | ⟨-, noRest, -⟩
    · refine lost.unlisted ?_
      rw [popped]
      exact List.mem_cons_of_mem _ listed
    · have noRest : (store.reserve issued).free = [] := noRest
      rw [noRest] at listed
      cases listed

/-- A slot stays lost when another one is written. -/
theorem write (lost : store.Lost index) {after : Store} {other : Nat}
    {held : Slot} (elsewhere : other ≠ index)
    (sameCount : after.count = store.count)
    (written : ∀ slot,
      after.slot slot = if other = slot then held else store.slot slot)
    (free : index ∈ after.free → index ∈ store.free) :
    after.Lost index where
  bound := sameCount ▸ lost.bound
  vacant := by
    rw [written, if_neg elsewhere]
    exact lost.vacant
  unlisted listed := lost.unlisted (free listed)

theorem set (lost : store.Lost index) (elsewhere : handle.slot ≠ index)
    (creature : Creature) : (store.set handle creature).Lost index := by
  by_cases bound : handle.slot < store.count
  · exact lost.write elsewhere (count_set store handle creature)
      (slot_set bound creature) id
  · rw [set_eq_self (Nat.not_lt.1 bound)]
    exact lost

theorem take (lost : store.Lost index) (handle : Handle) :
    (store.take handle).2.Lost index := by
  cases found : store.get handle with
  | none =>
      rw [take_eq_of_none found]
      exact lost
  | some creature =>
      refine lost.write (lost.slot_ne_of_get found)
        (count_take store handle) (slot_take found) ?_
      rw [free_take]
      exact id

theorem release (lost : store.Lost index) (handle : Handle) :
    (store.release handle).2.Lost index := by
  cases kept : store.holds handle with
  | false =>
      rw [release_eq_of_not_holds kept]
      exact lost
  | true =>
      have elsewhere := lost.slot_ne_of_holds kept
      refine lost.write elsewhere (count_release store handle)
        (slot_release kept) ?_
      rw [free_release kept, List.mem_cons]
      exact fun listed => listed.resolve_left (Ne.symm elsewhere)

/-- A lost slot stays lost, whatever is called and with whatever arguments, as
long as nobody writes to it. -/
theorem perform (lost : store.Lost index) (issued : Nat)
    {operation : Operation} (avoids : operation.Avoids index) :
    (store.perform issued operation).2.1.Lost index := by
  have reserved := lost.reserve issued
  cases operation with
  | allocate =>
      rw [perform_allocate]
      exact reserved
  | addCreature position program =>
      cases born :
          Creature.newborn (store.nextHandle issued) position program with
      | ok creature =>
          rw [perform_addCreature_of_ok born]
          exact reserved.set (lost.nextHandle_ne issued) creature
      | error fault =>
          rw [perform_addCreature_of_error born]
          exact reserved
  | set handle creature =>
      exact lost.set avoids creature
  | take handle =>
      exact lost.take handle
  | deallocate handle =>
      exact lost.release handle
  | modify handle change =>
      simp only [Store.perform, modify]
      split
      · next creature found =>
        exact lost.set (lost.slot_ne_of_get found) (change creature)
      · exact lost
  | get | isOut | handles | liveCount =>
      exact lost

theorem not_issued (lost : store.Lost index) (issued : Nat)
    (operation : Operation) :
    SlotEvent.issued index ∉ store.events issued operation := by
  have different := lost.nextHandle_ne issued
  cases operation with
  | allocate | addCreature =>
      simpa [events, Operation.drawn] using Ne.symm different
  | deallocate handle =>
      rw [events_deallocate]
      split <;> simp
  | _ =>
      exact List.not_mem_nil

end Lost

end Store

namespace Depot

variable {ι : Type} [DecidableEq ι] {depot : Depot ι} {index : ι}
  {slot : Nat}

/-- A lost slot stays lost through any number of calls, and is never issued
again. -/
theorem lost_after (lost : ((depot.stores index).Lost slot))
    {later : List (ι × Operation)}
    (avoided : ∀ operation, (index, operation) ∈ later →
      operation.Avoids slot) :
    ((depot.after later).stores index).Lost slot ∧
      SlotEvent.issued slot ∉ depot.log index later := by
  induction later generalizing depot with
  | nil =>
      exact ⟨lost, List.not_mem_nil⟩
  | cons call later inductionHypothesis =>
      obtain ⟨called, operation⟩ := call
      have rest : ∀ operation, (index, operation) ∈ later →
          operation.Avoids slot := fun operation member =>
        avoided operation (List.mem_cons_of_mem _ member)
      rw [after_cons, log, List.mem_append, not_or]
      by_cases here : called = index
      · subst here
        have kept : ((depot.perform called operation).2.stores called).Lost
            slot := by
          rw [stores_perform_self]
          exact lost.perform depot.issued
            (avoided operation List.mem_cons_self)
        obtain ⟨last, unissued⟩ := inductionHypothesis kept rest
        rw [if_pos rfl]
        exact ⟨last, lost.not_issued depot.issued operation, unissued⟩
      · have kept : ((depot.perform called operation).2.stores index).Lost
            slot := by
          rw [stores_perform_of_ne (Ne.symm here)]
          exact lost
        obtain ⟨last, unissued⟩ := inductionHypothesis kept rest
        rw [if_neg here]
        exact ⟨last, List.not_mem_nil, unissued⟩

end Depot

/-- As long as the calls are in order, a slot that is reserved and forgotten
is lost. -/
private theorem Mirrors.lost_reserve {register : Register} {store : Store}
    (mirrors : Mirrors register store) (issued : Nat) :
    (store.reserve issued).Lost (store.nextHandle issued).slot where
  bound := (mirrors.lt_count_reserve_iff issued _).2 (Or.inr rfl)
  vacant :=
    (Store.slot_allocate store issued _).trans (mirrors.vacant_next issued).1
  unlisted listed :=
    (((mirrors.free_reserve issued).2 _).1 listed).2 rfl

/-! ## Populations of refused newborns -/

namespace Habitat

variable {σ : Type} {program : List Codon} {fault : Fault}

/-- The habitat once a slot is reserved of which nobody hears. -/
def spent (habitat : Habitat σ) : Habitat σ :=
  { habitat with
    store := habitat.store.reserve habitat.issued
    issued := habitat.issued + 1 }

private theorem ends_spawn_refused
    (checked : Codon.checkProgram program = .error fault)
    {habitat : Habitat σ} {position : Position}
    {post : Handle → Habitat σ → Prop} {fail : Fault → Habitat σ → Prop} :
    (spawn position program).Ends habitat post fail ↔
      fail fault habitat.spent := by
  have stamped := Store.issued_allocate habitat.store habitat.issued
  apply Act.ends_ofStep_error
  simp only [Store.addCreature, Creature.newborn_of_error checked, stamped]
  rfl

/-- How the seeding of so many refused newborns fails: for want of tiles, in
the search for the first position, or when the first of them is refused. The
grid stays as it is. -/
inductive Balked (habitat : Habitat σ) (count : Int) (refusal : Fault) :
    Fault → Habitat σ → Prop where
  | crowded (few : habitat.freeTiles < count) :
      Balked habitat count refusal
        (Fault.crowded count habitat.freeTiles).raised habitat
  | givenUp (dice : σ) :
      Balked habitat count refusal .unfinished { habitat with dice }
  | refused (dice : σ) :
      Balked habitat count refusal refusal { habitat.spent with dice }

variable [Dice σ]

private theorem ends_placeOne_refused
    (checked : Codon.checkProgram program = .error fault) (count : Int)
    (patience : Nat) (habitat : Habitat σ) :
    (placeOne program patience).Ends habitat (fun _ _ => False)
      (habitat.Balked count fault) := by
  rw [placeOne, Act.ends_bind]
  refine (ends_rollFree patience habitat).mono ?_ ?_
  · rintro position _ ⟨-, -, dice, rfl⟩
    rw [Act.ends_bind, ends_spawn_refused checked]
    exact .refused dice
  · rintro _ _ ⟨rfl, dice, rfl⟩
    exact .givenUp dice

theorem ends_populate_refused
    (checked : Codon.checkProgram program = .error fault) (count : Int)
    (patience : Nat) (habitat : Habitat σ) :
    (populate count program patience).Ends habitat
      (fun handles after =>
        count ≤ 0 ∧ handles = [] ∧
          ∃ journal, after = { habitat with journal })
      (habitat.Balked count fault) := by
  rw [populate, Act.ends_bind, Act.ends_get]
  by_cases crowded : habitat.freeTiles < count
  · rw [if_pos crowded]
    exact .crowded crowded
  · rw [if_neg crowded, Act.ends_bind]
    cases wanted : count.toNat with
    | zero =>
        rw [placeMany, Act.ends_pure, Act.ends_bind, ends_note]
        exact ⟨Int.toNat_eq_zero.1 wanted, rfl, _, rfl⟩
    | succ others =>
        rw [placeMany, Act.ends_bind]
        refine (ends_placeOne_refused checked count patience habitat).mono
          ?_ fun _ _ failed => failed
        intro _ _ impossible
        exact impossible.elim

end Habitat

/-! ## The cost of a refusal -/

/-- What is left of a depot after a slot of one of its stores was reserved in
vain. -/
structure Depot.Spent {ι : Type} [DecidableEq ι] (depot after : Depot ι)
    (index : ι) : Prop where
  /-- All later calls are answered as after an allocation. -/
  allocated : after = (depot.perform index .allocate).2
  held : ∀ other slot,
    (after.stores other).slot slot = (depot.stores other).slot slot
  count : (after.stores index).count = (depot.stores index).count +
    if (depot.stores index).free = [] then 1 else 0
  freeCount : (after.stores index).freeCount =
    (depot.stores index).freeCount - 1
  elsewhere : ∀ other ≠ index, after.stores other = depot.stores other
  issued : after.issued = depot.issued + 1

/-- How a program is refused, and what that costs. -/
structure RefusedAtCost (ι : Type) [DecidableEq ι] (program : List Codon)
    (fault : Fault) : Prop where
  objection : Codon.Objection program fault
  spent : ∀ (depot : Depot ι) index position, ∃ after,
    depot.perform index (.addCreature position program) =
        (.refused fault, after) ∧ depot.Spent after index
  /-- As long as the calls were in order before, and nobody writes to the slot
  afterwards, it stays as it is, nobody can give it back, and it is never
  issued again. -/
  lost : ∀ {issued calls answers} {final : ι → Register},
    Booked issued (fun _ => .empty) calls answers
        ((Depot.opened issued).drawn calls) final →
      ∀ index position,
        let depot := (Depot.opened issued).after calls
        let slot := (depot.nextHandle index).slot
        let refusal :=
          (depot.perform index (.addCreature position program)).2
        ∀ later, (∀ operation, (index, operation) ∈ later →
            operation.Avoids slot) →
          let store := (refusal.after later).stores index
          store.Lost slot ∧
            (∀ (handle : Handle) (stamps : Nat), handle.slot = slot →
              store.deallocate stamps handle =
                (if handle.isWritable stamps then .ok false
                  else .error .longFigure, store)) ∧
            SlotEvent.issued slot ∉ refusal.log index later
  /-- A population goes through only if nobody is wanted. -/
  populated : ∀ {σ : Type} [Dice σ] (habitat : Habitat σ) count patience,
    (Habitat.populate count program patience).Ends habitat
      (fun handles after =>
        count ≤ 0 ∧ handles = [] ∧
          ∃ journal, after = { habitat with journal })
      (habitat.Balked count fault)

section Costs

variable {ι : Type} [DecidableEq ι] {program : List Codon} {fault : Fault}

private theorem Depot.spent_allocate (depot : Depot ι) (index : ι) :
    depot.Spent (depot.perform index .allocate).2 index where
  allocated := rfl
  held other slot := by
    by_cases here : other = index
    · subst here
      rw [stores_perform_self]
      exact Store.slot_allocate _ _ slot
    · rw [stores_perform_of_ne here]
  count := by
    rw [stores_perform_self]
    exact Store.count_reserve _ _
  freeCount := by
    rw [stores_perform_self, Store.perform_allocate]
    rcases Store.reserves_allocate (depot.stores index) depot.issued with
      ⟨popped, -⟩ | ⟨exhausted, noRest, -⟩
    · rw [Store.freeCount, Store.freeCount, popped]
      rfl
    · have noRest :
          ((depot.stores index).reserve depot.issued).free = [] := noRest
      rw [Store.freeCount, Store.freeCount, noRest, exhausted]
      rfl
  elsewhere _ different := stores_perform_of_ne different
  issued := issued_perform depot index .allocate

/-- A refusal leaves what an allocation leaves. -/
theorem Depot.perform_refused
    (checked : Codon.checkProgram program = .error fault) (depot : Depot ι)
    (index : ι) (position : Position) :
    depot.perform index (.addCreature position program) =
      (.refused fault, (depot.perform index .allocate).2) := by
  have refused := Store.perform_addCreature_of_error
    (Creature.newborn_of_error checked
      ((depot.stores index).nextHandle depot.issued) position)
  rw [perform, refused, perform, Store.perform_allocate]

theorem refusals_cost_slots (refused : Codon.Refused program) :
    ∃ fault, RefusedAtCost ι program fault := by
  obtain ⟨fault, checked, objection⟩ := refused.exists_objection
  refine ⟨fault, ?_⟩
  refine
    { objection
      spent := ?_, lost := ?_
      populated := fun habitat count patience =>
        Habitat.ends_populate_refused checked count patience habitat }
  · intro depot index position
    exact ⟨_, depot.perform_refused checked index position,
      depot.spent_allocate index⟩
  · intro issued calls answers final booked index position depot slot refusal
      later avoided store
    obtain ⟨-, -, mirrors⟩ := booked.answers_eq rfl (fun _ => Mirrors.empty) rfl
    have same : refusal = (depot.perform index .allocate).2 := by
      unfold refusal
      rw [depot.perform_refused checked]
    have forgotten : (refusal.stores index).Lost slot := by
      rw [same, Depot.stores_perform_self]
      exact (mirrors index).lost_reserve depot.issued
    obtain ⟨lost, unissued⟩ := Depot.lost_after forgotten avoided
    refine ⟨lost, ?_, unissued⟩
    intro handle stamps named
    exact lost.deallocate_eq named stamps

/-- The only slot is free, and an empty program takes it away. -/
theorem free_slot_lost :
    let creature : Creature := { (default : Creature) with handle := ⟨0, 0⟩ }
    let calls : List (Bool × Operation) :=
      [(true, .allocate), (true, .set ⟨0, 0⟩ creature),
        (true, .deallocate ⟨0, 0⟩)]
    let depot := (Depot.opened 0).after calls
    (depot.stores true).free = [0] ∧
      ∃ fault after,
        depot.perform true (.addCreature ⟨0, 0⟩ []) =
            (.refused fault, after) ∧
          RefusedAtCost Bool [] fault ∧
          (after.stores true).Lost 0 ∧
          after.nextHandle true = ⟨1, 2⟩ := by
  intro creature calls depot
  have writing : ((Register.empty.reserve ⟨0, 0⟩).Admits
      (.set ⟨0, 0⟩ creature)) :=
    ⟨rfl, Or.inl (Finset.mem_singleton_self _)⟩
  have later : ∀ call ∈ calls.drop 2, ∀ register : Register,
      register.Admits call.2 := by
    simp [calls, Register.Admits]
  obtain ⟨answers, final, rest⟩ := Booked.exists_of_calls later _
    ((Depot.opened 0).after (calls.take 2))
  have booked : Booked 0 (fun _ => .empty) calls _
      ((Depot.opened 0).drawn calls) final :=
    .call ⟨0, 0⟩ trivial (.call ⟨0, 0⟩ writing rest)
  obtain ⟨fault, costs⟩ := @refusals_cost_slots Bool _ [] (Or.inl rfl)
  obtain ⟨after, refused, -⟩ := costs.spent depot true ⟨0, 0⟩
  have lost := (costs.lost booked true ⟨0, 0⟩ []
    fun _ listed => absurd listed List.not_mem_nil).1
  have next : ((depot.perform true (.addCreature ⟨0, 0⟩ [])).2).nextHandle
      true = ⟨1, 2⟩ := by
    decide +kernel
  rw [refused] at lost next
  exact ⟨by decide +kernel, fault, after, refused, costs, lost, next⟩

/-- Nothing has been done yet, and a newborn is refused. -/
theorem count_changed_by_refusal :
    let depot : Depot Unit := .opened 0
    let refusal := depot.perform () (.addCreature ⟨0, 0⟩ [])
    refusal.1 = .refused (.programSize 0) ∧
      (refusal.2.stores ()).count ≠ (depot.stores ()).count ∧
      (refusal.2.nextHandle ()).slot ≠ (depot.nextHandle ()).slot := by
  decide

end Costs

end Vivarium
