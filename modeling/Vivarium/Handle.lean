/-!
# Handles

A handle names a creature by the slot it lives in and by the generation it was
stamped with. Slots are used again, generations never are, so a handle whose
creature is gone stays unresolvable even after its slot holds another one.
-/

namespace Vivarium

/-- A soft reference to a stored creature. -/
structure Handle where
  slot : Nat
  generation : Nat
deriving DecidableEq, Inhabited

namespace Handle

/-- Handles are ordered by slot, and within one slot by generation. -/
instance : LT Handle where
  lt left right :=
    left.slot < right.slot ∨
      left.slot = right.slot ∧ left.generation < right.generation

instance : LE Handle where
  le left right := left < right ∨ left = right

theorem lt_iff {left right : Handle} :
    left < right ↔
      left.slot < right.slot ∨
        left.slot = right.slot ∧ left.generation < right.generation :=
  Iff.rfl

theorem le_iff {left right : Handle} :
    left ≤ right ↔ left < right ∨ left = right :=
  Iff.rfl

instance (left right : Handle) : Decidable (left < right) :=
  decidable_of_iff _ lt_iff.symm

instance (left right : Handle) : Decidable (left ≤ right) :=
  decidable_of_iff _ le_iff.symm

end Handle

end Vivarium
