import Vivarium.Proofs.Bookkeeping

/-!
# Slots that are used again

Every slot of a store is in one of four conditions, as long as the calls are in
order: it holds a creature, its creature is out, it is free, or it waits for
the creature that it was allocated for. A store grows only when no slot is
free, and otherwise uses the one again that was released last.
-/

namespace Vivarium

/-! ## Conditions of a slot -/

inductive Condition where
  | stored
  | out
  | free
  | reserved

def Condition.Holds (register : Register) (store : Store) (index : Nat) :
    Condition → Prop
  | stored => ∃ creature, store.slot index = .stored creature
  | out => ∃ handle, store.slot index = .checkedOut handle
  | free => store.free.count index = 1
  | reserved => ∃ handle ∈ register.reserved, handle.slot = index

def Store.condition (store : Store) (index : Nat) : Condition :=
  match store.slot index with
  | .stored _ => .stored
  | .checkedOut _ => .out
  | .vacant => if index ∈ store.free then .free else .reserved

namespace Mirrors

variable {register : Register} {store : Store} {index : Nat}

private theorem count_free_iff
    (mirrors : Mirrors register store) (index : Nat) :
    store.free.count index = 1 ↔ index ∈ store.free := by
  constructor
  · intro once
    rw [← List.count_pos_iff, once]
    exact Nat.one_pos
  · exact List.count_eq_one_of_mem mirrors.nodup

/-- A slot that is used is neither free nor waited for. -/
theorem used (mirrors : Mirrors register store)
    (held : store.slot index ≠ .vacant) :
    index ∉ store.free ∧
      ¬ ∃ handle ∈ register.reserved, handle.slot = index := by
  constructor
  · intro listed
    exact held ((mirrors.mem_free index).1 listed).2.1
  · rintro ⟨handle, reserved, rfl⟩
    exact held (mirrors.waiting reserved).2

/-- A vacant slot is free unless somebody waits for it. -/
private theorem vacant_iff (mirrors : Mirrors register store)
    (bound : index < store.count) (vacant : store.slot index = .vacant) :
    index ∉ store.free ↔
      ∃ handle ∈ register.reserved, handle.slot = index := by
  rw [mirrors.mem_free]
  simp [bound, vacant]

theorem holds_iff (mirrors : Mirrors register store)
    (bound : index < store.count) (condition : Condition) :
    condition.Holds register store index ↔
      store.condition index = condition := by
  have once := mirrors.count_free_iff index
  cases held : store.slot index with
  | stored creature =>
      have taken : store.slot index ≠ .vacant := by simp [held]
      have used := mirrors.used taken
      cases condition <;>
        simp [Condition.Holds, Store.condition, held, once, used]
  | checkedOut handle =>
      have taken : store.slot index ≠ .vacant := by simp [held]
      have used := mirrors.used taken
      cases condition <;>
        simp [Condition.Holds, Store.condition, held, once, used]
  | vacant =>
      have waiting := mirrors.vacant_iff bound held
      by_cases listed : index ∈ store.free <;> cases condition <;>
        simp [Condition.Holds, Store.condition, held, once, ← waiting,
          listed]

/-- No two handles in use lead to the same slot. -/
theorem eq_of_slot_eq (mirrors : Mirrors register store)
    {left right : Handle} (leftKnown : register.Knows left)
    (rightKnown : register.Knows right)
    (sameSlot : left.slot = right.slot) : left = right := by
  rcases leftKnown with reserved | entered
  · exact mirrors.waiting_eq rightKnown reserved sameSlot
  · have owned := Store.holds_iff_owner.1 (mirrors.mem_iff.1 entered)
    rw [sameSlot] at owned
    exact mirrors.owner_eq rightKnown owned

end Mirrors

/-! ## Growth -/

namespace Store

theorem count_reserve (store : Store) (issued : Nat) :
    (store.reserve issued).count =
      store.count + if store.free = [] then 1 else 0 := by
  rcases reserves_allocate store issued with
    ⟨popped, sameCount⟩ | ⟨exhausted, -, -, grown⟩
  · rw [if_neg (by simp [popped])]
    exact sameCount
  · rw [if_pos exhausted]
    exact grown

/-- A call adds a slot just if it allocates one and none is free. -/
theorem count_perform (store : Store) (issued : Nat)
    (operation : Operation) (next : Handle) :
    (store.perform issued operation).2.1.count =
      store.count +
        if store.free = [] then (operation.drawn next).length else 0 := by
  cases operation with
  | allocate =>
      rw [perform_allocate]
      exact count_reserve store issued
  | addCreature position program =>
      cases born :
          Creature.newborn (store.nextHandle issued) position program with
      | ok creature =>
          rw [perform_addCreature_of_ok born, count_set]
          exact count_reserve store issued
      | error fault =>
          rw [perform_addCreature_of_error born]
          exact count_reserve store issued
  | set handle creature =>
      simp [perform, Operation.drawn, count_set]
  | take handle =>
      simp [perform, Operation.drawn, count_take]
  | deallocate handle =>
      simp [perform, Operation.drawn, snd_deallocate, count_release]
  | modify handle change =>
      simp only [perform, Operation.drawn, modify]
      split <;> simp [count_set]
  | get | isOut | handles | liveCount =>
      simp [perform, Operation.drawn]

end Store

/-! ## The order of release -/

inductive SlotEvent where
  | released (slot : Nat)
  | issued (slot : Nat)
deriving DecidableEq

namespace SlotEvent

/-- A slot was released and has not been issued since. -/
def Waits (log : List SlotEvent) (slot : Nat) : Prop :=
  ∃ earlier later, log = earlier ++ released slot :: later ∧
    issued slot ∉ later

/-- A slot waits that was released after all others that wait. -/
def WaitsLast (log : List SlotEvent) (slot : Nat) : Prop :=
  ∃ earlier later, log = earlier ++ released slot :: later ∧
    issued slot ∉ later ∧ ∀ other, ¬ Waits later other

/-- The slots that wait, the last released first. -/
def touch (waiting : List Nat) : SlotEvent → List Nat
  | released slot => slot :: waiting
  | issued slot => waiting.filter (· ≠ slot)

def waiting (log : List SlotEvent) : List Nat :=
  log.foldl touch []

variable {log : List SlotEvent} {slot : Nat}

private theorem waiting_snoc (log : List SlotEvent) (event : SlotEvent) :
    waiting (log ++ [event]) = touch (waiting log) event := by
  simp [waiting]

private theorem mem_foldl_touch {slots : List Nat} (listed : slot ∈ slots)
    (kept : issued slot ∉ log) : slot ∈ log.foldl touch slots := by
  induction log generalizing slots with
  | nil =>
      exact listed
  | cons event rest inductionHypothesis =>
      rw [List.mem_cons, not_or] at kept
      rcases kept with ⟨different, kept⟩
      refine inductionHypothesis ?_ kept
      cases event with
      | released other =>
          exact List.mem_cons_of_mem other listed
      | issued other =>
          have notOther : slot ≠ other := fun same =>
            different (congrArg issued same)
          simp [touch, listed, notOther]

private theorem Waits.mem_waiting (waits : Waits log slot) :
    slot ∈ waiting log := by
  rcases waits with ⟨earlier, later, rfl, kept⟩
  rw [waiting, List.foldl_append, List.foldl_cons]
  exact mem_foldl_touch List.mem_cons_self kept

/-- A slot that waits after an event was released by it, or waited before. -/
private theorem touch_eq_append
    {slots front back : List Nat} {event : SlotEvent}
    (listed : touch slots event = front ++ slot :: back) :
    (event = released slot ∧ front = []) ∨
      event ≠ issued slot ∧
        ∃ earlier later, slots = earlier ++ slot :: later ∧
          touch earlier event = front := by
  cases event with
  | released other =>
      cases front with
      | nil =>
          have newest := (List.cons.inj listed).1
          exact Or.inl ⟨congrArg released newest, rfl⟩
      | cons first front =>
          rcases List.cons.inj listed with ⟨newest, listed⟩
          refine Or.inr ⟨nofun, front, back, listed, ?_⟩
          rw [newest]
          rfl
  | issued other =>
      obtain ⟨earlier, rest, rfl, kept, listed⟩ :=
        List.filter_eq_append_iff.1 listed
      -- what is taken away behind the last slot that is kept lay before it
      obtain ⟨gone, later, rfl, removed, different, -⟩ :=
        List.filter_eq_cons_iff.1 listed
      have nothing : gone.filter (· ≠ other) = [] :=
        List.filter_eq_nil_iff.2 removed
      refine Or.inr ⟨?_, earlier ++ gone, later, by simp, ?_⟩
      · intro same
        cases same
        simp at different
      · rw [touch, List.filter_append, kept, nothing, List.append_nil]

/-- Each slot on the list was released at some point, and the slots in front
of it are those that have come to wait since. -/
private theorem exists_released {front back : List Nat}
    (listed : waiting log = front ++ slot :: back) :
    ∃ earlier later, log = earlier ++ released slot :: later ∧
      issued slot ∉ later ∧ waiting later = front := by
  induction log using List.reverseRecOn generalizing front back with
  | nil =>
      simp [waiting] at listed
  | append_singleton log event inductionHypothesis =>
      rw [waiting_snoc] at listed
      rcases touch_eq_append listed with
        ⟨rfl, rfl⟩ | ⟨notIssued, before, behind, waited, rfl⟩
      · exact ⟨log, [], rfl, List.not_mem_nil, rfl⟩
      · obtain ⟨earlier, later, rfl, kept, rfl⟩ :=
          inductionHypothesis waited
        refine ⟨earlier, later ++ [event], by simp, ?_, ?_⟩
        · simp [kept, Ne.symm notIssued]
        · exact waiting_snoc later event

/-- The head of the list was released last. -/
private theorem waitsLast_of_waiting {rest : List Nat}
    (listed : waiting log = slot :: rest) : WaitsLast log slot := by
  have first : waiting log = [] ++ slot :: rest := listed
  obtain ⟨earlier, later, parted, kept, nothing⟩ := exists_released first
  refine ⟨earlier, later, parted, kept, ?_⟩
  intro other waits
  have member := waits.mem_waiting
  rw [nothing] at member
  exact List.not_mem_nil member

private theorem not_waits_of_waiting (nothing : waiting log = []) :
    ¬ Waits log slot := by
  intro waits
  have member := waits.mem_waiting
  rw [nothing] at member
  exact List.not_mem_nil member

end SlotEvent

namespace Store

/-- What a call does to slots: it releases one if it is a deallocation that
is not rejected, and issues those that it allocates. -/
def events (store : Store) (issued : Nat) : Operation → List SlotEvent
  | .deallocate handle =>
    match (store.deallocate issued handle).1 with
    | .ok true => [.released handle.slot]
    | _ => []
  | operation =>
    (operation.drawn (store.nextHandle issued)).map fun handle =>
      .issued handle.slot

variable {store : Store}

theorem events_deallocate (store : Store) (issued : Nat) (handle : Handle) :
    store.events issued (.deallocate handle) =
      if store.holds handle then [.released handle.slot] else [] := by
  by_cases kept : store.holds handle = true
  · rw [events, fst_deallocate_eq_true_iff.2 kept, if_pos kept]
  · have rejected : (store.deallocate issued handle).1 ≠ .ok true :=
      fun released => kept (fst_deallocate_eq_true_iff.1 released)
    rw [events, if_neg kept]
    split
    · next released => exact absurd released rejected
    · rfl

private theorem free_reserve_eq (nodup : store.free.Nodup) (issued : Nat) :
    (store.reserve issued).free =
      store.free.filter (· ≠ (store.nextHandle issued).slot) := by
  rcases reserves_allocate store issued with
    ⟨popped, -⟩ | ⟨exhausted, noRest, -, -⟩
  · rw [popped] at nodup ⊢
    rcases List.nodup_cons.1 nodup with ⟨absent, -⟩
    have others : ∀ slot ∈ (store.reserve issued).free,
        slot ≠ (store.nextHandle issued).slot := by
      intro slot listed same
      rw [same] at listed
      exact absent listed
    have kept : (store.reserve issued).free.filter
        (· ≠ (store.nextHandle issued).slot) =
          (store.reserve issued).free :=
      List.filter_eq_self.2 (by simpa using others)
    rw [List.filter_cons_of_neg (by simp [nextHandle])]
    exact kept.symm
  · have noRest : (store.reserve issued).free = [] := noRest
    rw [exhausted, noRest]
    rfl

/-- The free list goes along with what happens to the slots. -/
theorem free_perform (nodup : store.free.Nodup) (issued : Nat)
    (operation : Operation) :
    (store.perform issued operation).2.1.free =
      (store.events issued operation).foldl SlotEvent.touch store.free := by
  have reserved := free_reserve_eq nodup issued
  cases operation with
  | allocate =>
      rw [perform_allocate]
      exact reserved
  | addCreature position program =>
      cases born :
          Creature.newborn (store.nextHandle issued) position program with
      | ok creature =>
          rw [perform_addCreature_of_ok born]
          exact reserved
      | error fault =>
          rw [perform_addCreature_of_error born]
          exact reserved
  | deallocate handle =>
      simp only [perform, events_deallocate, snd_deallocate]
      cases held : store.holds handle with
      | false =>
          rw [release_eq_of_not_holds held]
          rfl
      | true =>
          exact free_release held
  | take handle =>
      exact free_take store handle
  | modify handle change =>
      simp only [perform, modify]
      split <;> rfl
  | _ =>
      rfl

end Store

namespace Depot

variable {ι : Type} [DecidableEq ι]

def log (depot : Depot ι) (index : ι) :
    List (ι × Operation) → List SlotEvent
  | [] => []
  | (called, operation) :: calls =>
    (if called = index then
        (depot.stores index).events depot.issued operation
      else []) ++
      log (depot.perform called operation).2 index calls

variable {depot : Depot ι} {index : ι}

theorem count_perform (depot : Depot ι) (index called : ι)
    (operation : Operation) :
    ((depot.perform called operation).2.stores index).count =
      (depot.stores index).count +
        if called = index ∧ (depot.stores index).free = [] then
          (operation.drawn (depot.nextHandle index)).length
        else 0 := by
  by_cases here : called = index
  · subst here
    rw [stores_perform_self]
    simpa using Store.count_perform (depot.stores called) depot.issued
      operation (depot.nextHandle called)
  · rw [stores_perform_of_ne (Ne.symm here)]
    simp [here]

theorem count_le_after (depot : Depot ι) (index : ι)
    (calls : List (ι × Operation)) :
    (depot.stores index).count ≤
      ((depot.after calls).stores index).count := by
  induction calls generalizing depot with
  | nil =>
      exact Nat.le_refl _
  | cons call calls inductionHypothesis =>
      have first := count_perform depot index call.1 call.2
      have rest := inductionHypothesis (depot.perform call.1 call.2).2
      rw [after_cons]
      omega

private theorem free_step (nodup : (depot.stores index).free.Nodup)
    (called : ι) (operation : Operation) :
    ((depot.perform called operation).2.stores index).free =
      (if called = index then
          (depot.stores index).events depot.issued operation
        else []).foldl SlotEvent.touch (depot.stores index).free := by
  by_cases here : called = index
  · subst here
    rw [stores_perform_self, if_pos rfl]
    exact Store.free_perform nodup depot.issued operation
  · rw [stores_perform_of_ne (Ne.symm here), if_neg here]
    rfl

end Depot

namespace Booked

variable {ι : Type} [DecidableEq ι] {issued : Nat}
  {registers final : ι → Register} {depot : Depot ι}
  {calls : List (ι × Operation)} {answers : List Answer}
  {names : List Handle}

private theorem free_eq
    (booked : Booked issued registers calls answers names final)
    (counted : depot.issued = issued)
    (mirrors : ∀ index, Mirrors (registers index) (depot.stores index))
    (named : names = depot.drawn calls) (index : ι) :
    ((depot.after calls).stores index).free =
      (depot.log index calls).foldl SlotEvent.touch
        (depot.stores index).free := by
  induction booked generalizing depot with
  | done issued registers =>
      rfl
  | @call issued registers final called operation next calls answers names
      admitted rest inductionHypothesis =>
      subst counted
      rcases Operation.drawn_append_inj named with ⟨sameNext, named⟩
      rw [Register.perform_congr sameNext (registers called)]
        at inductionHypothesis
      have later := inductionHypothesis (issued_perform sameNext)
        (Mirrors.perform_depot mirrors admitted) named
      rw [Depot.after_cons, later, Depot.log, List.foldl_append,
        Depot.free_step (mirrors index).nodup]

end Booked

/-! ## All slots of a store -/

section Slots

variable {ι : Type} [DecidableEq ι]

/-- How a store of a depot keeps its slots, given its books and the log of
what has happened to its slots. -/
structure KeepsSlots (depot : Depot ι) (index : ι) (register : Register)
    (log : List SlotEvent) : Prop where
  partition : ∀ slot < (depot.stores index).count,
    ∃! condition : Condition,
      condition.Holds register (depot.stores index) slot
  /-- Nothing else is on the free list, and nothing twice. -/
  free : (depot.stores index).free.Nodup ∧
    ∀ slot ∈ (depot.stores index).free, slot < (depot.stores index).count
  apart : ∀ {left right}, register.Knows left → register.Knows right →
    left.slot = right.slot → left = right
  inside : ∀ {handle}, register.Knows handle →
    handle.slot < (depot.stores index).count
  grows : ∀ called operation,
    ((depot.perform called operation).2.stores index).count =
      (depot.stores index).count +
        if called = index ∧ (depot.stores index).free = [] then
          (operation.drawn (depot.nextHandle index)).length
        else 0
  monotone : ∀ calls, (depot.stores index).count ≤
    ((depot.after calls).stores index).count
  /-- The next allocation returns the slot that was released last of those
  that wait, or else a new one. -/
  next : ∃ handle, (depot.perform index .allocate).1 = .named handle ∧
    (SlotEvent.WaitsLast log handle.slot ∨
      (∀ slot, ¬ SlotEvent.Waits log slot) ∧
        handle.slot = (depot.stores index).count)

theorem Mirrors.keepsSlots {register : Register} {depot : Depot ι}
    {index : ι} {log : List SlotEvent}
    (mirrors : Mirrors register (depot.stores index))
    (logged : (depot.stores index).free = SlotEvent.waiting log) :
    KeepsSlots depot index register log where
  partition := by
    intro slot bound
    refine ⟨(depot.stores index).condition slot, ?_, ?_⟩
    · exact (mirrors.holds_iff bound _).2 rfl
    · intro condition holds
      exact ((mirrors.holds_iff bound condition).1 holds).symm
  free := ⟨mirrors.nodup, fun slot listed =>
    ((mirrors.mem_free slot).1 listed).1⟩
  apart := mirrors.eq_of_slot_eq
  inside := mirrors.lt_count
  grows := Depot.count_perform depot index
  monotone := Depot.count_le_after depot index
  next := by
    refine ⟨depot.nextHandle index, rfl, ?_⟩
    rcases Store.reserves_allocate (depot.stores index) depot.issued with
      ⟨popped, -⟩ | ⟨exhausted, -, last, -⟩
    · rw [logged] at popped
      exact Or.inl (SlotEvent.waitsLast_of_waiting popped)
    · rw [logged] at exhausted
      exact Or.inr
        ⟨fun slot => SlotEvent.not_waits_of_waiting exhausted, last⟩

variable {final : ι → Register} {calls : List (ι × Operation)}
  {answers : List Answer}

/-- Whatever is called, as long as it is in order, from stores without a slot
on. -/
theorem Depot.calls_keep_slots (issued : Nat)
    (booked : Booked issued (fun _ => .empty) calls answers
      ((Depot.opened issued).drawn calls) final) (index : ι) :
    KeepsSlots ((Depot.opened issued).after calls) index (final index)
      ((Depot.opened issued).log index calls) := by
  obtain ⟨-, -, mirrors⟩ := booked.answers_eq rfl (fun _ => Mirrors.empty) rfl
  have logged := booked.free_eq rfl (fun _ => Mirrors.empty) rfl index
  exact (mirrors index).keepsSlots logged

/-- Of two slots one is lost to a newborn that is refused, and the other one is
given up. -/
theorem Depot.one_slot_lost_one_free :
    let creature : Creature := { (default : Creature) with handle := ⟨0, 0⟩ }
    let calls : List (Bool × Operation) :=
      [(true, .allocate), (true, .set ⟨0, 0⟩ creature), (false, .allocate),
        (true, .addCreature ⟨0, 0⟩ []), (true, .take ⟨0, 0⟩),
        (true, .deallocate ⟨0, 0⟩)]
    ∃ answers final,
      Booked 0 (fun _ => .empty) calls answers
          ((Depot.opened 0).drawn calls) final ∧
        (((Depot.opened 0).after calls).stores true).count = 2 ∧
        (((Depot.opened 0).after calls).stores true).free = [0] ∧
        (Depot.opened 0).log true calls =
          [.issued 0, .issued 1, .released 0] ∧
        KeepsSlots ((Depot.opened 0).after calls) true (final true)
          ((Depot.opened 0).log true calls) := by
  intro creature calls
  have writing : ((Register.empty.reserve ⟨0, 0⟩).Admits
      (.set ⟨0, 0⟩ creature)) :=
    ⟨rfl, Or.inl (Finset.mem_singleton_self _)⟩
  have later : ∀ call ∈ calls.drop 2, ∀ register : Register,
      register.Admits call.2 := by
    simp [calls, Register.Admits]
  obtain ⟨answers, final, rest⟩ := Booked.exists_of_calls later _
    ((Depot.opened 0).after (calls.take 2))
  have booked : Booked 0 (fun _ => .empty) calls _
      ((Depot.opened 0).drawn calls) final :=
    .call ⟨0, 0⟩ trivial (.call ⟨0, 0⟩ writing rest)
  have figures :
      (((Depot.opened 0).after calls).stores true).count = 2 ∧
        (((Depot.opened 0).after calls).stores true).free = [0] ∧
        (Depot.opened 0).log true calls =
          [.issued 0, .issued 1, .released 0] := by
    decide +kernel
  rcases figures with ⟨grown, free, logged⟩
  exact ⟨_, final, booked, grown, free, logged,
    Depot.calls_keep_slots 0 booked true⟩

end Slots

end Vivarium
