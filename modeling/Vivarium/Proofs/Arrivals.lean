import Vivarium.Proofs.Actions
import Vivarium.Proofs.Consistent
import Vivarium.Seeding

/-!
# Arrivals

How creatures come into a habitat other than by birth: a first population is
scattered over the free tiles, and a host places single creatures. Either
way a newcomer is stored and its tile, which was free, is marked.
-/

namespace Vivarium

variable {σ : Type}

namespace Habitat

variable {habitat after : Habitat σ} {creature : Creature}

/-- A habitat between two turns that is consistent. -/
def InOrder (habitat : Habitat σ) : Prop :=
  Consistent habitat.world habitat.store habitat.issued none

theorem InOrder.consistent (inOrder : habitat.InOrder) :
    Consistent habitat.world habitat.store habitat.issued none :=
  inOrder

def nextHandle (habitat : Habitat σ) : Handle :=
  (habitat.store.allocate habitat.issued).1

def joined (habitat : Habitat σ) (creature : Creature) : Habitat σ :=
  { habitat with
    world := habitat.world.setOccupant creature.position
      (some creature.handle)
    store :=
      (habitat.store.allocate habitat.issued).2.1.set creature.handle
        creature
    issued := (habitat.store.allocate habitat.issued).2.2 }

theorem InOrder.joined (inOrder : habitat.InOrder)
    (named : creature.handle = habitat.nextHandle)
    (onGrid : habitat.world.contains creature.position = true)
    (unoccupied : habitat.world.occupant? creature.position = none)
    (viable : creature.Viable) : (habitat.joined creature).InOrder :=
  inOrder.consistent.spawn named onGrid unoccupied viable

/-! ## A population is seeded -/

/-- Newborn creatures with one program have come one after the other, the
newest first. -/
inductive Sown (program : List Codon) (habitat : Habitat σ) :
    List Handle → Habitat σ → Prop where
  | start : Sown program habitat [] habitat
  -- a roll or a notice in between
  | aside {placed : List Handle} {before : Habitat σ}
      (earlier : Sown program habitat placed before) (dice : σ)
      (journal : List Notice) :
      Sown program habitat placed
        { before with dice := dice, journal := journal }
  | placed {placed : List Handle} {before : Habitat σ}
      {position : Position} (earlier : Sown program habitat placed before)
      (onGrid : before.world.contains position = true)
      (unoccupied : before.world.occupant? position = none) :
      Sown program habitat (before.nextHandle :: placed)
        (before.joined
          (Creature.born before.nextHandle position program))

theorem Sown.inOrder {program : List Codon} {placed : List Handle}
    (inOrder : habitat.InOrder)
    (admitted : Codon.checkProgram program = .ok ())
    (sown : Sown program habitat placed after) : after.InOrder := by
  induction sown with
  | start =>
      exact inOrder
  | aside earlier dice journal inductionHypothesis =>
      exact inductionHypothesis
  | placed earlier onGrid unoccupied inductionHypothesis =>
      exact inductionHypothesis.joined rfl onGrid unoccupied
        (Creature.viable_born admitted)

section Seeding

variable [Dice σ]

theorem contains_rolled (world : World) (x : Fin world.width)
    (y : Fin world.height) : world.contains ⟨x.val, y.val⟩ = true :=
  World.contains_iff.2
    ⟨Int.natCast_nonneg _, Int.ofNat_lt.2 x.isLt, Int.natCast_nonneg _,
      Int.ofNat_lt.2 y.isLt⟩

/-- A search ends on a free tile unless it is given up. -/
theorem ends_rollFree (patience : Nat) (habitat : Habitat σ) :
    (rollFree patience).Ends habitat
      (fun position after =>
        habitat.world.contains position = true ∧
          habitat.world.occupant? position = none ∧
          ∃ dice, after = { habitat with dice })
      (fun fault after =>
        fault = .unfinished ∧ ∃ dice, after = { habitat with dice }) := by
  induction patience generalizing habitat with
  | zero =>
      exact ⟨rfl, habitat.dice, rfl⟩
  | succ patience inductionHypothesis =>
      rw [rollFree, Act.ends_bind, rollPosition, Act.ends_modifyGet]
      obtain ⟨x, columnDice⟩ :=
        Dice.roll habitat.dice habitat.world.width habitat.world.width_pos
      dsimp only
      obtain ⟨y, dice⟩ :=
        Dice.roll columnDice habitat.world.height habitat.world.height_pos
      dsimp only
      have onGrid := contains_rolled habitat.world x y
      rcases World.exists_tile? onGrid with ⟨tile, found⟩
      have seen := World.isOccupied_of_tile? found
      have foundRolled :
          ({ habitat with dice } : Habitat σ).world.tile? ⟨x.val, y.val⟩ =
            some tile := found
      rw [Act.ends_bind, ends_inspect foundRolled]
      cases occupied : habitat.world.occupant? ⟨x.val, y.val⟩ with
      | some occupant =>
          rw [occupied, Option.isSome_some] at seen
          rw [if_pos seen]
          exact inductionHypothesis { habitat with dice }
      | none =>
          rw [occupied, Option.isSome_none] at seen
          rw [if_neg (by rw [seen]; exact Bool.false_ne_true)]
          exact ⟨onGrid, occupied, dice, rfl⟩

variable {program : List Codon} {placed : List Handle}
  {before : Habitat σ}

theorem ends_placeOne (admitted : Codon.checkProgram program = .ok ())
    (patience : Nat) (habitat : Habitat σ) :
    (placeOne program patience).Ends habitat
      (fun handle after =>
        ∃ position dice,
          habitat.world.contains position = true ∧
            habitat.world.occupant? position = none ∧
            handle = habitat.nextHandle ∧
            after =
              ({ habitat with dice } : Habitat σ).joined
                (Creature.born habitat.nextHandle position program))
      (fun fault after =>
        fault = .unfinished ∧ ∃ dice, after = { habitat with dice }) := by
  rw [placeOne, Act.ends_bind]
  refine (ends_rollFree patience habitat).mono ?_ fun _ _ given => given
  intro position _ given
  rcases given with ⟨onGrid, unoccupied, dice, rfl⟩
  rw [Act.ends_bind, ends_spawn admitted, Act.ends_bind, ends_occupy]
  exact ⟨position, dice, onGrid, unoccupied, rfl, rfl⟩

theorem Sown.placeOne
    (admitted : Codon.checkProgram program = .ok ())
    (sown : Sown program habitat placed before) (patience : Nat) :
    (placeOne program patience).Ends before
      (fun handle after => Sown program habitat (handle :: placed) after)
      (fun fault after =>
        fault = .unfinished ∧ Sown program habitat placed after) := by
  refine (ends_placeOne admitted patience before).mono ?_ ?_
  · intro _ _ given
    rcases given with ⟨position, dice, onGrid, unoccupied, rfl, rfl⟩
    exact (sown.aside dice before.journal).placed onGrid unoccupied
  · intro fault _ given
    rcases given with ⟨unfinished, dice, rfl⟩
    exact ⟨unfinished, sown.aside dice before.journal⟩

theorem Sown.placeMany
    (admitted : Codon.checkProgram program = .ok ())
    (sown : Sown program habitat placed before) (patience count : Nat) :
    (placeMany program patience count placed).Ends before
      (fun handles after =>
        Sown program habitat handles after ∧
          handles.length = placed.length + count)
      (fun fault after =>
        fault = .unfinished ∧
          ∃ handles, Sown program habitat handles after) := by
  induction count generalizing placed before with
  | zero =>
      exact ⟨sown, rfl⟩
  | succ count inductionHypothesis =>
      rw [Habitat.placeMany, Act.ends_bind]
      refine (sown.placeOne admitted patience).mono ?_ ?_
      · intro handle after sownAfter
        refine (inductionHypothesis sownAfter).mono ?_ fun _ _ given => given
        intro handles last given
        rcases given with ⟨sownLast, length⟩
        rw [List.length_cons] at length
        exact ⟨sownLast, by omega⟩
      · intro fault after given
        rcases given with ⟨unfinished, sownAfter⟩
        exact ⟨unfinished, placed, sownAfter⟩

/-- Seeding goes through unless the free tiles are too few, in which case it
changes nothing, or a search for one is given up. -/
theorem ends_populate (admitted : Codon.checkProgram program = .ok ())
    (count : Int) (patience : Nat) (habitat : Habitat σ) :
    (populate count program patience).Ends habitat
      (fun handles after =>
        ∃ placed, Sown program habitat placed after ∧
          handles = placed.reverse ∧ placed.length = count.toNat)
      (fun fault after =>
        (fault = .unfinished ∧ ∃ placed, Sown program habitat placed after) ∨
          (fault = (Fault.crowded count habitat.freeTiles).raised ∧
            habitat.freeTiles < count ∧ after = habitat)) := by
  rw [populate, Act.ends_bind, Act.ends_get]
  by_cases crowded : habitat.freeTiles < count
  · rw [if_pos crowded]
    exact Or.inr ⟨rfl, crowded, rfl⟩
  · rw [if_neg crowded, Act.ends_bind]
    have begun : Sown program habitat [] habitat := Sown.start
    refine (begun.placeMany admitted patience count.toNat).mono ?_ ?_
    · intro placed after given
      rcases given with ⟨sown, length⟩
      rw [Act.ends_bind, ends_note]
      refine ⟨placed, sown.aside after.dice _, rfl, ?_⟩
      rw [length, List.length_nil, Nat.zero_add]
    · intro fault after given
      exact Or.inl given

end Seeding

/-! ## A host places a creature -/

/-- Stores a creature with a given program, energy and registers, and marks
its tile. -/
def place (position : Position) (program : List Codon) (energy : Int)
    (sensors : Sensors) : Act (Habitat σ) Handle := do
  let handle ← spawn position program
  modify fun habitat =>
    { habitat with
      store := habitat.store.modify handle fun creature =>
        { creature with energy, sensors } }
  let _ ← inspect position
  occupy position (some handle)
  return handle

variable {position : Position} {program : List Codon} {energy : Int}
  {sensors : Sensors}

def guest (habitat : Habitat σ) (position : Position)
    (program : List Codon) (energy : Int) (sensors : Sensors) : Creature :=
  { Creature.born habitat.nextHandle position program with energy, sensors }

theorem viable_guest (admitted : Codon.checkProgram program = .ok ())
    (enough : 0 ≤ energy) (bytes : sensors.InRange) :
    (habitat.guest position program energy sensors).Viable where
  program := admitted
  energy := enough
  sensors := bytes
  diet := rfl

theorem ends_place (inOrder : habitat.InOrder)
    (admitted : Codon.checkProgram program = .ok ())
    (onGrid : habitat.world.contains position = true)
    {post : Handle → Habitat σ → Prop} {fail : Fault → Habitat σ → Prop} :
    (place position program energy sensors).Ends habitat post fail ↔
      post habitat.nextHandle
        (habitat.joined (habitat.guest position program energy sensors)) := by
  have bound := inOrder.consistent.lt_count_allocate
  have known :=
    Store.get_set bound
      (show (Creature.born habitat.nextHandle position program).handle =
        habitat.nextHandle from rfl)
  rcases World.exists_tile? onGrid with ⟨tile, found⟩
  rw [place, Act.ends_bind, ends_spawn admitted, Act.ends_bind,
    Act.ends_modify, Act.ends_bind]
  refine (@ends_inspect σ _ _ position tile _ ?_).trans ?_
  · exact found
  · unfold nextHandle at known
    simp only [Act.ends_bind, ends_occupy, Act.ends_pure, Store.modify, known,
      Store.set_set]
    rfl

end Habitat

end Vivarium
