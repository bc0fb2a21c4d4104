import Mathlib.Data.Finmap
import Mathlib.Data.Finset.Sort
import Vivarium.Proofs.Operations

/-!
# The register

What a store means to its callers: a finite map from handles to creatures,
some of which are taking their turns, and a set of handles that wait for their
creatures. A register is told the handles that allocations return, and expects
that a creature is written only under its own handle and only when that handle
waits for it. Of slots it knows only how far those of its handles reach. To
release a handle within that range which it does not have is refused when the
stamp was made up and is too long to be told.
-/

namespace Vivarium

namespace Handle

theorem le_iff_slot {left right : Handle} :
    left ≤ right ↔
      left.slot < right.slot ∨
        left.slot = right.slot ∧ left.generation ≤ right.generation := by
  rcases left with ⟨leftSlot, leftGeneration⟩
  rcases right with ⟨rightSlot, rightGeneration⟩
  simp only [le_iff, lt_iff, Handle.mk.injEq]
  omega

instance : LinearOrder Handle where
  le_refl handle := Or.inr rfl
  le_trans first second third := by
    simp only [le_iff_slot]
    omega
  le_antisymm first second := by
    rcases first with ⟨firstSlot, firstGeneration⟩
    rcases second with ⟨secondSlot, secondGeneration⟩
    simp only [le_iff_slot, Handle.mk.injEq]
    omega
  le_total first second := by
    simp only [le_iff_slot]
    omega
  lt_iff_le_not_ge first second := by
    rw [le_iff_slot, le_iff_slot, lt_iff]
    omega
  toDecidableLE := inferInstance

end Handle

inductive Entry where
  | stored (creature : Creature)
  | out
deriving DecidableEq

structure Register where
  entries : Finmap fun _ : Handle => Entry
  /-- The handles that were allocated and wait for their creatures. -/
  reserved : Finset Handle
  /-- The least number above the slots of all handles that were allocated. -/
  reach : Nat

namespace Register

def empty : Register := ⟨∅, ∅, 0⟩

def reserve (register : Register) (handle : Handle) : Register :=
  { register with
    reserved := insert handle register.reserved
    reach := max register.reach (handle.slot + 1) }

def enter (register : Register) (handle : Handle) (entry : Entry) :
    Register :=
  { register with
    entries := register.entries.insert handle entry
    reserved := register.reserved.erase handle }

def remove (register : Register) (handle : Handle) : Register :=
  { register with entries := register.entries.erase handle }

theorem lookup_enter (register : Register) (handle other : Handle)
    (entry : Entry) :
    (register.enter handle entry).entries.lookup other =
      if other = handle then some entry
      else register.entries.lookup other := by
  split
  · next same =>
    rw [same]
    exact Finmap.lookup_insert _
  · next different =>
    exact Finmap.lookup_insert_of_ne _ different

theorem lookup_remove (register : Register) (handle other : Handle) :
    (register.remove handle).entries.lookup other =
      if other = handle then none
      else register.entries.lookup other := by
  split
  · next same =>
    rw [same]
    exact Finmap.lookup_erase _ _
  · next different =>
    exact Finmap.lookup_erase_ne different

def creature? (register : Register) (handle : Handle) : Option Creature :=
  match register.entries.lookup handle with
  | some (.stored creature) => some creature
  | _ => none

def stored (register : Register) : Finset Handle :=
  register.entries.keys.filter fun handle =>
    (register.creature? handle).isSome

theorem creature?_eq_some_iff {register : Register} {handle : Handle}
    {creature : Creature} :
    register.creature? handle = some creature ↔
      register.entries.lookup handle = some (.stored creature) := by
  unfold creature?
  cases register.entries.lookup handle with
  | none => simp
  | some entry => cases entry <;> simp

theorem mem_stored_iff {register : Register} {handle : Handle} :
    handle ∈ register.stored ↔
      ∃ creature, register.creature? handle = some creature := by
  rw [stored, Finset.mem_filter, Finmap.mem_keys, ← Finmap.lookup_isSome,
    Option.isSome_iff_exists, Option.isSome_iff_exists]
  refine ⟨And.right, fun found => ⟨?_, found⟩⟩
  rcases found with ⟨creature, found⟩
  exact ⟨.stored creature, creature?_eq_some_iff.1 found⟩

def Knows (register : Register) (handle : Handle) : Prop :=
  handle ∈ register.reserved ∨ handle ∈ register.entries

def Admits (register : Register) : Operation → Prop
  | .set handle creature =>
    creature.handle = handle ∧
      (handle ∈ register.reserved ∨
        register.entries.lookup handle = some .out)
  | .modify _ change =>
    ∀ creature : Creature, (change creature).handle = creature.handle
  | _ => True

/-- Answers a call, given the count of the stamps drawn so far and the handle
that the next allocation returns. -/
def perform (register : Register) (issued : Nat) (next : Handle) :
    Operation → Answer × Register
  | .allocate => (.named next, register.reserve next)
  | .addCreature position program =>
    match Creature.newborn next position program with
    | .ok creature =>
      (.named next, (register.reserve next).enter next (.stored creature))
    | .error fault => (.refused fault, register.reserve next)
  | .set handle creature =>
    (.done, register.enter handle (.stored creature))
  | .take handle =>
    match register.creature? handle with
    | some creature => (.found (some creature), register.enter handle .out)
    | none => (.found none, register)
  | .deallocate handle =>
    if handle ∈ register.entries then
      (.verdict true, register.remove handle)
    else if handle.slot < register.reach ∧
        handle.isWritable issued = false then
      (.refused .longFigure, register)
    else
      (.verdict false, register)
  | .get handle => (.found (register.creature? handle), register)
  | .modify handle change =>
    match register.creature? handle with
    | some creature =>
      (.found (some creature),
        register.enter handle (.stored (change creature)))
    | none => (.found none, register)
  | .isOut handle =>
    (.verdict (register.entries.lookup handle = some .out), register)
  | .handles => (.listed register.stored.sort, register)
  | .liveCount => (.counted register.stored.card, register)

/-- Only an allocation asks for the next handle. -/
theorem perform_congr {operation : Operation} {first second : Handle}
    (same : operation.drawn first = operation.drawn second)
    (register : Register) (issued : Nat) :
    register.perform issued first operation =
      register.perform issued second operation := by
  cases operation with
  | allocate =>
      rw [List.singleton_inj.1 same]
  | addCreature position program =>
      rw [List.singleton_inj.1 same]
  | _ =>
      rfl

end Register

namespace Slot

/-- What a slot means to one of the handles that lead to it. -/
def record? (handle : Handle) : Slot → Option Entry
  | vacant => none
  | stored creature =>
    if creature.handle = handle then some (.stored creature) else none
  | checkedOut holder => if holder = handle then some .out else none

variable {held : Slot} {handle : Handle} {creature : Creature}

theorem isSome_record?_iff :
    (held.record? handle).isSome ↔ held.owner? = some handle := by
  cases held <;> simp [record?, owner?]

theorem record?_eq_none_of_owner? (stranger : held.owner? ≠ some handle) :
    held.record? handle = none := by
  rw [← Option.not_isSome_iff_eq_none, isSome_record?_iff]
  exact stranger

theorem record?_eq_stored_iff :
    held.record? handle = some (.stored creature) ↔
      held = .stored creature ∧ creature.handle = handle := by
  cases held with
  | vacant => simp [record?]
  | checkedOut holder => simp [record?]
  | stored other =>
      simp only [record?, Option.ite_none_right_eq_some,
        Option.some.injEq, Entry.stored.injEq, Slot.stored.injEq]
      constructor
      · rintro ⟨named, rfl⟩
        exact ⟨rfl, named⟩
      · rintro ⟨rfl, named⟩
        exact ⟨named, rfl⟩

theorem record?_eq_out_iff :
    held.record? handle = some .out ↔ held = .checkedOut handle := by
  cases held <;> simp [record?]

end Slot

end Vivarium
