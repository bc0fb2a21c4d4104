import Mathlib.Logic.Function.Basic
import Vivarium.Store.Lookup

/-!
# Operations on stores

The calls of a store as data, so that one can speak of every sequence of
them. A depot is a family of stores that draw their stamps from one count.
-/

namespace Vivarium

inductive Operation where
  | allocate
  | addCreature (position : Position) (program : List Codon)
  | set (handle : Handle) (creature : Creature)
  | take (handle : Handle)
  | deallocate (handle : Handle)
  | get (handle : Handle)
  -- the look-up of a writer, together with what the writer does
  | modify (handle : Handle) (change : Creature → Creature)
  | isOut (handle : Handle)
  | handles
  | liveCount

inductive Answer where
  | done
  | named (handle : Handle)
  | refused (fault : Fault)
  | found (creature : Option Creature)
  | verdict (holds : Bool)
  | listed (handles : List Handle)
  | counted (number : Nat)
deriving DecidableEq

def Answer.ofVerdict : Except Fault Bool → Answer
  | .ok released => verdict released
  | .error fault => refused fault

namespace Operation

/-- The handles that a call allocates, given the one that is next. A newborn
that is refused leaves its handle behind. -/
def drawn (next : Handle) : Operation → List Handle
  | allocate => [next]
  | addCreature _ _ => [next]
  | _ => []

theorem drawn_append_inj {operation : Operation} {first second : Handle}
    {left right : List Handle}
    (same : operation.drawn first ++ left = operation.drawn second ++ right) :
    operation.drawn first = operation.drawn second ∧ left = right := by
  apply List.append_inj same
  cases operation <;> rfl

end Operation

namespace Creature

theorem handle_of_newborn {handle : Handle} {position : Position}
    {program : List Codon} {creature : Creature}
    (born : newborn handle position program = .ok creature) :
    creature.handle = handle := by
  unfold newborn make at born
  cases checked : Codon.checkProgram program with
  | error fault =>
      rw [checked] at born
      cases born
  | ok =>
      rw [checked] at born
      cases born
      rfl

end Creature

namespace Slot

def owner? : Slot → Option Handle
  | vacant => none
  | stored creature => some creature.handle
  | checkedOut handle => some handle

end Slot

namespace Store

variable {store : Store} {issued : Nat} {handle : Handle}
  {creature : Creature}

theorem holds_iff_owner :
    store.holds handle = true ↔
      (store.slot handle.slot).owner? = some handle := by
  rw [holds_iff]
  cases store.slot handle.slot <;> simp [Slot.owner?]

theorem holds_eq_false_iff :
    store.holds handle = false ↔
      (store.slot handle.slot).owner? ≠ some handle := by
  rw [← Bool.not_eq_true, holds_iff_owner]

def perform (store : Store) (issued : Nat) :
    Operation → Answer × Store × Nat
  | .allocate =>
    let (handle, store, issued) := store.allocate issued
    (.named handle, store, issued)
  | .addCreature position program =>
    match store.addCreature issued position program with
    | (.ok handle, store, issued) => (.named handle, store, issued)
    | (.error fault, store, issued) => (.refused fault, store, issued)
  | .set handle creature => (.done, store.set handle creature, issued)
  | .take handle =>
    let (creature, store) := store.take handle
    (.found creature, store, issued)
  | .deallocate handle =>
    let (result, store) := store.deallocate issued handle
    (.ofVerdict result, store, issued)
  | .get handle => (.found (store.get handle), store, issued)
  | .modify handle change =>
    (.found (store.get handle), store.modify handle change, issued)
  | .isOut handle => (.verdict (store.isOut handle), store, issued)
  | .handles => (.listed store.handles, store, issued)
  | .liveCount => (.counted store.liveCount, store, issued)

def nextHandle (store : Store) (issued : Nat) : Handle :=
  (store.allocate issued).1

def reserve (store : Store) (issued : Nat) : Store :=
  (store.allocate issued).2.1

theorem perform_allocate (store : Store) (issued : Nat) :
    store.perform issued .allocate =
      (.named (store.nextHandle issued), store.reserve issued,
        issued + 1) := by
  rw [← issued_allocate store issued]
  rfl

theorem perform_addCreature_of_ok {position : Position}
    {program : List Codon}
    (born : Creature.newborn (store.nextHandle issued) position program =
      .ok creature) :
    store.perform issued (.addCreature position program) =
      (.named (store.nextHandle issued),
        (store.reserve issued).set (store.nextHandle issued) creature,
        issued + 1) := by
  have stamped := issued_allocate store issued
  unfold nextHandle at born
  simp only [perform, addCreature, born, stamped]
  rfl

theorem perform_addCreature_of_error {position : Position}
    {program : List Codon} {fault : Fault}
    (refused :
      Creature.newborn (store.nextHandle issued) position program =
        .error fault) :
    store.perform issued (.addCreature position program) =
      (.refused fault, store.reserve issued, issued + 1) := by
  have stamped := issued_allocate store issued
  unfold nextHandle at refused
  simp only [perform, addCreature, refused, stamped]
  rfl

/-- The count goes on by one for each handle that is drawn. -/
theorem issued_perform (store : Store) (issued : Nat)
    (operation : Operation) (next : Handle) :
    (store.perform issued operation).2.2 =
      issued + (operation.drawn next).length := by
  cases operation with
  | allocate =>
      rw [perform_allocate]
      rfl
  | addCreature position program =>
      cases born :
          Creature.newborn (store.nextHandle issued) position program with
      | ok creature =>
          rw [perform_addCreature_of_ok born]
          rfl
      | error fault =>
          rw [perform_addCreature_of_error born]
          rfl
  | _ =>
      rfl

end Store

/-- Stores that share the count of the stamps drawn so far. -/
structure Depot (ι : Type) where
  stores : ι → Store
  issued : Nat

namespace Depot

variable {ι : Type} [DecidableEq ι]

/-- Stores without a slot, after a number of stamps were drawn elsewhere. -/
def opened (issued : Nat) : Depot ι :=
  ⟨fun _ => .empty, issued⟩

def nextHandle (depot : Depot ι) (index : ι) : Handle :=
  (depot.stores index).nextHandle depot.issued

def perform (depot : Depot ι) (index : ι) (operation : Operation) :
    Answer × Depot ι :=
  let (answer, store, issued) :=
    (depot.stores index).perform depot.issued operation
  (answer, ⟨Function.update depot.stores index store, issued⟩)

def after (depot : Depot ι) (calls : List (ι × Operation)) : Depot ι :=
  calls.foldl
    (fun depot call => (depot.perform call.1 call.2).2) depot

def drawn (depot : Depot ι) : List (ι × Operation) → List Handle
  | [] => []
  | (index, operation) :: calls =>
    operation.drawn (depot.nextHandle index) ++
      drawn (depot.perform index operation).2 calls

def answers (depot : Depot ι) : List (ι × Operation) → List Answer
  | [] => []
  | (index, operation) :: calls =>
    (depot.perform index operation).1 ::
      answers (depot.perform index operation).2 calls

variable {depot : Depot ι} {index other : ι} {operation : Operation}
  {calls later : List (ι × Operation)} {handle : Handle}

theorem after_cons (depot : Depot ι) (call : ι × Operation)
    (calls : List (ι × Operation)) :
    depot.after (call :: calls) =
      (depot.perform call.1 call.2).2.after calls :=
  rfl

theorem after_append (depot : Depot ι)
    (calls later : List (ι × Operation)) :
    depot.after (calls ++ later) = (depot.after calls).after later :=
  List.foldl_append

theorem drawn_append (depot : Depot ι)
    (calls later : List (ι × Operation)) :
    depot.drawn (calls ++ later) =
      depot.drawn calls ++ (depot.after calls).drawn later := by
  induction calls generalizing depot with
  | nil =>
      rfl
  | cons call calls inductionHypothesis =>
      rw [List.cons_append, drawn, drawn, inductionHypothesis,
        List.append_assoc, after_cons]

theorem drawn_singleton (depot : Depot ι) (index : ι)
    (operation : Operation) :
    depot.drawn [(index, operation)] =
      operation.drawn (depot.nextHandle index) :=
  List.append_nil _

theorem stores_perform_of_ne (different : other ≠ index) :
    (depot.perform index operation).2.stores other =
      depot.stores other :=
  Function.update_of_ne different _ _

theorem stores_perform_self (depot : Depot ι) (index : ι)
    (operation : Operation) :
    (depot.perform index operation).2.stores index =
      ((depot.stores index).perform depot.issued operation).2.1 :=
  Function.update_self index _ _

theorem issued_perform (depot : Depot ι) (index : ι)
    (operation : Operation) :
    (depot.perform index operation).2.issued =
      depot.issued +
        (operation.drawn (depot.nextHandle index)).length :=
  Store.issued_perform _ _ operation _

omit [DecidableEq ι] in
theorem generation_nextHandle (depot : Depot ι) (index : ι) :
    (depot.nextHandle index).generation = depot.issued :=
  Store.generation_allocate _ _

omit [DecidableEq ι] in
private theorem generation_of_mem_drawn
    (allocated : handle ∈ operation.drawn (depot.nextHandle index)) :
    handle.generation = depot.issued := by
  have named : handle = depot.nextHandle index := by
    cases operation with
    | allocate =>
        exact List.mem_singleton.1 allocated
    | addCreature position program =>
        exact List.mem_singleton.1 allocated
    | _ =>
        cases allocated
  rw [named, generation_nextHandle]

theorem issued_le_after (depot : Depot ι)
    (calls : List (ι × Operation)) :
    depot.issued ≤ (depot.after calls).issued := by
  induction calls generalizing depot with
  | nil =>
      exact Nat.le_refl _
  | cons call calls inductionHypothesis =>
      rw [after_cons]
      have first := issued_perform depot call.1 call.2
      have rest := inductionHypothesis (depot.perform call.1 call.2).2
      omega

/-- The stamps of the handles that a sequence of calls allocates lie between
the count before and the count after. -/
theorem generation_of_mem_drawn_after
    (allocated : handle ∈ depot.drawn calls) :
    depot.issued ≤ handle.generation ∧
      handle.generation < (depot.after calls).issued := by
  induction calls generalizing depot with
  | nil =>
      cases allocated
  | cons call calls inductionHypothesis =>
      rw [after_cons]
      have counted := issued_perform depot call.1 call.2
      rcases List.mem_append.1 allocated with first | second
      · have stamp := generation_of_mem_drawn first
        have positive := List.length_pos_of_mem first
        have rest :=
          issued_le_after (depot.perform call.1 call.2).2 calls
        omega
      · have rest := inductionHypothesis second
        omega

/-- No stamp is given out twice, in one store or in two. -/
theorem pairwise_drawn (depot : Depot ι)
    (calls : List (ι × Operation)) :
    (depot.drawn calls).Pairwise fun earlier later =>
      earlier.generation < later.generation := by
  induction calls generalizing depot with
  | nil =>
      exact List.Pairwise.nil
  | cons call calls inductionHypothesis =>
      refine List.pairwise_append.2 ⟨?_, inductionHypothesis _, ?_⟩
      · cases call.2 <;> simp [Operation.drawn]
      · intro first allocated second allocatedLater
        have counted := issued_perform depot call.1 call.2
        have stamp := generation_of_mem_drawn allocated
        have positive := List.length_pos_of_mem allocated
        have bounds := generation_of_mem_drawn_after allocatedLater
        omega

end Depot

end Vivarium
