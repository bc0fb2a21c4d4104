import Mathlib.Algebra.Order.Field.Rat
import Mathlib.Order.Interval.Finset.Nat
import Mathlib.Tactic.FieldSimp
import Mathlib.Tactic.Positivity
import Mathlib.Tactic.Ring
import Vivarium.Compass
import Vivarium.Proofs.Rolls

/-!
# Shares of the compass

The sides of the die are dealt out to the directions in blocks that follow one
another, as many to each as it weighs and one more to the last. A register
that is raised brings further sides, all of them for its own direction, so it
can only add to the share of that direction and take from the other ones.
-/

namespace Vivarium

namespace Sensors

variable {sensors : Sensors} {direction other : Direction} {value : Nat}

/-! ## Blocks of sides -/

def start (sensors : Sensors) : Direction → Nat
  | .east => 0
  | .west => sensors.weight .east
  | .north => sensors.weight .east + sensors.weight .west
  | .south =>
      sensors.weight .east + sensors.weight .west + sensors.weight .north

def sides (sensors : Sensors) : Direction → Nat
  | .east => sensors.weight .east
  | .west => sensors.weight .west
  | .north => sensors.weight .north
  | .south => sensors.weight .south + 1

private theorem directionOf_eq_iff
    {face : Nat} (inside : face ≤ sensors.totalWeight) :
    sensors.directionOf face = direction ↔
      sensors.start direction ≤ face ∧
        face < sensors.start direction + sensors.sides direction := by
  rw [totalWeight] at inside
  unfold directionOf
  cases direction <;> simp only [start, sides] <;> split_ifs <;>
    simp <;> omega

private theorem sides_pos (sensors : Sensors) (direction : Direction) :
    0 < sensors.sides direction := by
  cases direction <;> exact Nat.succ_pos _

private theorem start_add_sides_le (sensors : Sensors) (direction : Direction) :
    sensors.start direction + sensors.sides direction ≤
      sensors.totalWeight + 1 := by
  cases direction <;> simp only [start, sides, totalWeight] <;> omega

def faces (sensors : Sensors) (direction : Direction) : Finset Nat :=
  (Finset.range (sensors.totalWeight + 1)).filter fun face =>
    sensors.directionOf face = direction

private theorem faces_eq (sensors : Sensors) (direction : Direction) :
    sensors.faces direction =
      Finset.Ico (sensors.start direction)
        (sensors.start direction + sensors.sides direction) := by
  have highest := sensors.start_add_sides_le direction
  ext face
  rw [faces, Finset.mem_filter, Finset.mem_range, Finset.mem_Ico]
  constructor
  · rintro ⟨inside, shown⟩
    exact (directionOf_eq_iff (Nat.le_of_lt_succ inside)).1 shown
  · intro within
    have inside : face < sensors.totalWeight + 1 :=
      Nat.lt_of_lt_of_le within.2 highest
    exact ⟨inside, (directionOf_eq_iff (Nat.le_of_lt_succ inside)).2 within⟩

theorem card_faces (sensors : Sensors) (direction : Direction) :
    (sensors.faces direction).card = sensors.sides direction := by
  rw [faces_eq, Nat.card_Ico, Nat.add_sub_cancel_left]

/-! ## Shares -/

def share (sensors : Sensors) (direction : Direction) : ℚ :=
  (sensors.faces direction).card / (sensors.totalWeight + 1 : Nat)

private theorem totalWeight_put (sensors : Sensors) (direction : Direction)
    (amount : Nat) :
    (sensors.put direction (sensors.get direction + amount)).totalWeight =
      sensors.totalWeight + amount := by
  cases direction <;> simp only [totalWeight, weight, put, get] <;> omega

private theorem sides_put_self (sensors : Sensors) (direction : Direction)
    (amount : Nat) :
    (sensors.put direction (sensors.get direction + amount)).sides direction =
      sensors.sides direction + amount := by
  cases direction <;> simp only [sides, weight, put, get] <;> omega

private theorem sides_put_of_ne (different : other ≠ direction) :
    (sensors.put direction value).sides other = sensors.sides other := by
  cases direction <;> cases other <;>
    first | exact absurd rfl different | rfl

theorem share_le_share_put (raised : sensors.get direction ≤ value) :
    sensors.share direction ≤
      (sensors.put direction value).share direction := by
  obtain ⟨amount, rfl⟩ := Nat.exists_eq_add_of_le raised
  have few : sensors.sides direction ≤ sensors.totalWeight + 1 :=
    Nat.le_trans (Nat.le_add_left _ _) (sensors.start_add_sides_le direction)
  rw [share, share, card_faces, card_faces, sides_put_self, totalWeight_put,
    div_le_div_iff₀ (by positivity) (by positivity)]
  norm_cast
  calc sensors.sides direction * (sensors.totalWeight + amount + 1)
      = sensors.sides direction * (sensors.totalWeight + 1) +
          sensors.sides direction * amount := by ring
    _ ≤ sensors.sides direction * (sensors.totalWeight + 1) +
          (sensors.totalWeight + 1) * amount := by gcongr
    _ = (sensors.sides direction + amount) * (sensors.totalWeight + 1) := by
        ring

theorem share_put_le_share (raised : sensors.get direction ≤ value)
    (different : other ≠ direction) :
    (sensors.put direction value).share other ≤ sensors.share other := by
  have same : (sensors.put direction value).sides other =
      sensors.sides other := sides_put_of_ne different
  obtain ⟨amount, rfl⟩ := Nat.exists_eq_add_of_le raised
  rw [share, share, card_faces, card_faces, same, totalWeight_put]
  gcongr
  omega

theorem share_pos (sensors : Sensors) (direction : Direction) :
    0 < sensors.share direction := by
  have some := sensors.sides_pos direction
  rw [share, card_faces]
  positivity

theorem sum_share (sensors : Sensors) :
    (Direction.all.map sensors.share).sum = 1 := by
  have positive : ((sensors.totalWeight + 1 : Nat) : ℚ) ≠ 0 := by positivity
  simp only [Direction.all, List.map_cons, List.map_nil, List.sum_cons,
    List.sum_nil, share, card_faces]
  field_simp
  norm_cast
  simp only [sides, totalWeight]
  ring

/-! ## The roll -/

theorem exists_face_of_chooseDirection {τ : Type} [Dice τ]
    (sensors : Sensors) (dice : Recorded τ) :
    ∃ face ≤ sensors.totalWeight, ∃ after,
      sensors.chooseDirection dice = (sensors.directionOf face, after) ∧
        after.draws = ⟨sensors.totalWeight, face⟩ :: dice.draws := by
  obtain ⟨face, source, rolled⟩ :=
    Dice.roll_recorded dice (Nat.succ_pos sensors.totalWeight)
  rw [chooseDirection, rolled]
  exact ⟨face, Nat.le_of_lt_succ face.isLt, _, rfl, rfl⟩

theorem exists_script_of_face {face : Nat}
    (inside : face ≤ sensors.totalWeight) :
    ∃ (dice : Script) (after : Recorded Script),
      sensors.chooseDirection (⟨dice, []⟩ : Recorded Script) =
          (sensors.directionOf face, after) ∧
        after.draws = [⟨sensors.totalWeight, face⟩] := by
  refine ⟨⟨#[face], 0⟩, ?_⟩
  rw [chooseDirection, Dice.roll_script rfl (Nat.lt_succ_of_le inside)]
  exact ⟨_, rfl, rfl⟩

/-- How a die is dealt out to the directions, and what becomes of it when a
register is raised. -/
structure Apportioned (sensors : Sensors) : Prop where
  total : sensors.totalWeight =
    sensors.east + sensors.west + sensors.north + sensors.south + 4
  /-- A direction takes one roll, and is the one that the side stands for. -/
  rolled : ∀ {τ : Type} [Dice τ] (dice : Recorded τ),
    ∃ face ≤ sensors.totalWeight, ∃ after,
      sensors.chooseDirection dice = (sensors.directionOf face, after) ∧
        after.draws = ⟨sensors.totalWeight, face⟩ :: dice.draws
  shown : ∀ face ≤ sensors.totalWeight,
    ∃ (dice : Script) (after : Recorded Script),
      sensors.chooseDirection (⟨dice, []⟩ : Recorded Script) =
          (sensors.directionOf face, after) ∧
        after.draws = [⟨sensors.totalWeight, face⟩]
  east : sensors.faces .east = Finset.Ico 0 (sensors.east + 1)
  west : sensors.faces .west =
    Finset.Ico (sensors.east + 1) (sensors.east + sensors.west + 2)
  north : sensors.faces .north =
    Finset.Ico (sensors.east + sensors.west + 2)
      (sensors.east + sensors.west + sensors.north + 3)
  south : sensors.faces .south =
    Finset.Ico (sensors.east + sensors.west + sensors.north + 3)
      (sensors.totalWeight + 1)
  count : ∀ direction, (sensors.faces direction).card =
    sensors.get direction + if direction = .south then 2 else 1
  possible : ∀ direction, 0 < sensors.share direction
  whole : (Direction.all.map sensors.share).sum = 1
  raised : ∀ direction value, sensors.get direction ≤ value →
    sensors.share direction ≤
        (sensors.put direction value).share direction ∧
      ∀ other ≠ direction,
        (sensors.put direction value).share other ≤ sensors.share other

theorem apportioned (sensors : Sensors) : Apportioned sensors where
  total := by
    simp only [totalWeight, weight, get]
    omega
  rolled := sensors.exists_face_of_chooseDirection
  shown _ := exists_script_of_face
  east := by
    rw [faces_eq, start, sides, weight, get, Nat.zero_add]
  west := by
    rw [faces_eq]
    congr 1
    simp only [start, sides, weight, get]
    omega
  north := by
    rw [faces_eq]
    congr 1 <;> simp only [start, sides, weight, get] <;> omega
  south := by
    rw [faces_eq]
    congr 1
    simp only [start, weight, get]
    omega
  count direction := by
    rw [card_faces]
    cases direction <;> rfl
  possible := sensors.share_pos
  whole := sensors.sum_share
  raised _ _ raised :=
    ⟨share_le_share_put raised, fun _ => share_put_le_share raised⟩

/-- With empty registers the last direction is twice as likely as another. -/
example : (⟨0, 0, 0, 0⟩ : Sensors).faces .south = {3, 4} := by
  decide

end Sensors

end Vivarium
