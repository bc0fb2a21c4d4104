import Vivarium.Proofs.Reachable
import Vivarium.Proofs.Survey

/-!
# Reports

The report on a tile is written from a detached copy of the creature on it,
and the description of a creature from the creature itself. Both end in the
same block of text. Numbers that are too long to be written are refused in
either place.
-/

namespace Vivarium

/-! ## Numbers -/

namespace Figure

private theorem registerMax_lt_pow {digits : Nat} (enough : 3 ≤ digits) :
    registerMax < Nat.pow 10 digits :=
  Nat.lt_of_lt_of_le (show registerMax < 10 ^ 3 by decide)
    (Nat.pow_le_pow_right (by decide) enough)

private theorem short_byte {value : Nat} (byte : value ≤ registerMax) :
    Short value := by
  rw [Short, Int.natAbs_natCast]
  unfold bound
  exact Nat.lt_of_le_of_lt byte (registerMax_lt_pow (by decide))

end Figure

open Figure

/-! ## Blocks -/

namespace Creature

variable {creature : Creature}

private theorem statsLine_portrait (bytes : creature.sensors.InRange) :
    creature.portrait.statsLine = creature.statsLine := by
  obtain ⟨east, west, north, south⟩ := bytes
  have shown (register : String) (value : Nat)
      (read : creature.sensors.readings.lookup register = some (value : Int))
      (byte : value ≤ registerMax) :
      creature.portrait.registerText register = .ok (toString value) := by
    rw [CreatureSnapshot.registerText, portrait, read]
    exact text_of_short (short_byte byte)
  rw [CreatureSnapshot.statsLine, shown "east" _ rfl east,
    shown "west" _ rfl west, shown "north" _ rfl north,
    shown "south" _ rfl south, statsLine]
  change (Figure.text creature.energy >>= _) = _
  cases Figure.text creature.energy with
  | error fault =>
      rfl
  | ok energy =>
      refine congrArg Except.ok ?_
      have cut : " N: " = " " ++ "N: " := rfl
      simp only [cut, toString, String.append_assoc]

/-- The block that is written from the copy of a creature is the one that is
written from the creature. -/
theorem Viable.lines_portrait (viable : creature.Viable) :
    creature.portrait.lines = creature.lines := by
  obtain ⟨-, -, native⟩ := Codon.checkProgram_eq_ok_iff.1 viable.program
  rw [CreatureSnapshot.lines, lines, statsLine_portrait viable.sensors,
    Codon.labels_eq_ok native]
  simp only [portrait, List.length_map]
  rfl

private theorem Viable.exists_lines (viable : creature.Viable)
    (short : Short creature.energy) :
    ∃ lines, creature.lines = .ok lines ∧ lines ≠ [] := by
  obtain ⟨-, -, native⟩ := Codon.checkProgram_eq_ok_iff.1 viable.program
  rw [lines, statsLine, text_of_short short, Codon.labels_eq_ok native]
  exact ⟨_, rfl, nofun⟩

theorem lines_of_long (long : ¬ Short creature.energy) :
    creature.lines = .error .longFigure := by
  rw [lines, statsLine, text_of_long long]
  rfl

end Creature

/-! ## Reports on tiles -/

namespace TileSnapshot

def headline (position : Position) (food : Int) : String :=
  s!"X: {position.x} Y: {position.y}\nFood: {food}"

def Legible (position : Position) (food : Int) : Prop :=
  Short position.x ∧ Short position.y ∧ Short food

variable {position : Position} {food : Int}

private theorem headline_eq (position : Position) (food : Int) :
    headline position food =
      "\n".intercalate
        [s!"X: {position.x} Y: {position.y}", s!"Food: {food}"] := by
  have cut : "\nFood: " = "\n" ++ "Food: " := rfl
  rw [String.intercalate_cons_cons, String.intercalate_singleton, headline,
    cut]
  simp only [toString, String.append_assoc]

private theorem report_of_legible (legible : Legible position food)
    (occupant : Option CreatureSnapshot) :
    (⟨position.x, position.y, food, occupant⟩ : TileSnapshot).report =
      (match occupant with
        | some shown => shown.lines
        | none => .ok []).map fun lines =>
          "\n".intercalate
            ([s!"X: {position.x} Y: {position.y}", s!"Food: {food}"] ++
              lines) := by
  obtain ⟨shortX, shortY, shortFood⟩ := legible
  rw [report, text_of_short shortX, text_of_short shortY,
    text_of_short shortFood]
  cases occupant with
  | none =>
      rfl
  | some shown =>
      dsimp only
      cases shown.lines <;> rfl

theorem report_vacant (legible : Legible position food) :
    (⟨position.x, position.y, food, none⟩ : TileSnapshot).report =
      .ok (headline position food) := by
  rw [report_of_legible legible, headline_eq]
  rfl

theorem report_occupied {shown : CreatureSnapshot} {lines : List String}
    (legible : Legible position food) (told : shown.lines = .ok lines)
    (nonempty : lines ≠ []) :
    (⟨position.x, position.y, food, some shown⟩ : TileSnapshot).report =
      .ok (headline position food ++ "\n" ++ "\n".intercalate lines) := by
  rw [report_of_legible legible, headline_eq]
  dsimp only
  rw [told, ← String.intercalate_append_of_ne_nil (List.cons_ne_nil _ _)
    nonempty]
  rfl

/-- A report is refused for the numbers of the tile before the creature on it
is looked at. -/
theorem report_of_illegible {occupant : Option CreatureSnapshot}
    (illegible : ¬ Legible position food) :
    (⟨position.x, position.y, food, occupant⟩ : TileSnapshot).report =
      .error .longFigure := by
  rw [report]
  by_cases x : Short position.x
  · by_cases y : Short position.y
    · have long : ¬ Short food := fun short => illegible ⟨x, y, short⟩
      rw [text_of_short x, text_of_short y, text_of_long long]
      rfl
    · rw [text_of_short x, text_of_long y]
      rfl
  · rw [text_of_long x]
    rfl

private theorem report_unfit {shown : CreatureSnapshot}
    (told : shown.lines = .error .longFigure) :
    (⟨position.x, position.y, food, some shown⟩ : TileSnapshot).report =
      .error .longFigure := by
  by_cases legible : Legible position food
  · rw [report_of_legible legible]
    dsimp only
    rw [told]
    rfl
  · exact report_of_illegible legible

end TileSnapshot

/-! ## Reports on simulations -/

namespace Engine

open TileSnapshot

variable {σ : Type} {engine : Engine σ} {position : Position} {tile : Tile}

/-- What a host sees of a tile, and what is written about it. -/
structure Reported (engine : Engine σ) (position : Position) (tile : Tile)
    (seen : TileSnapshot) : Prop where
  described : engine.describe position = .ok (some seen)
  vacant : tile.occupant = none → Legible position tile.food →
    seen.report = .ok (headline position tile.food)
  occupied : ∀ handle, tile.occupant = some handle →
    ∃ creature, engine.store.get handle = some creature ∧
      creature.position = position ∧
      (Short creature.energy → ∃ block, creature.text = .ok block ∧
        (Legible position tile.food → seen.report =
          .ok (headline position tile.food ++ "\n" ++ block))) ∧
      (¬ Short creature.energy → creature.text = .error .longFigure ∧
        seen.report = .error .longFigure)
  illegible : ¬ Legible position tile.food →
    seen.report = .error .longFigure

theorem exists_reported [Dice σ] (reachable : Reachable engine)
    (found : engine.world.tile? position = some tile) :
    ∃ seen, Reported engine position tile seen := by
  have inOrder := reachable.inOrder
  obtain ⟨occupied, placed⟩ := exists_occupantOf inOrder found
  refine ⟨engine.sighting (position, tile), ?_⟩
  refine
    { described := describe_of_tile? inOrder found
      vacant := ?_, occupied := ?_, illegible := report_of_illegible }
  · intro nobody legible
    have absent : engine.occupantOf tile = none := by
      rw [occupantOf, nobody]
      rfl
    rw [sighting, absent]
    exact report_vacant legible
  · intro handle marked
    rw [Tile.isOccupied, marked] at occupied
    obtain ⟨creature, present⟩ := Option.isSome_iff_exists.1 occupied
    have known : engine.store.get handle = some creature := by
      rw [← present, occupantOf, marked]
      rfl
    have viable := inOrder.consistent.viable_of_get known
    have seen := viable.lines_portrait
    refine ⟨creature, known, placed creature present, ?_, ?_⟩
    · intro short
      obtain ⟨lines, told, nonempty⟩ := viable.exists_lines short
      refine ⟨"\n".intercalate lines, ?_, ?_⟩
      · rw [Creature.text, told]
        rfl
      · intro legible
        rw [sighting, present]
        exact report_occupied legible (seen.trans told) nonempty
    · intro long
      have told := creature.lines_of_long long
      rw [Creature.text, told, sighting, present]
      exact ⟨rfl, report_unfit (seen.trans told)⟩

/-- A hunter on the first of two tiles. -/
theorem exists_reported_hunter :
    ∃ (engine : Engine Script) (seen : TileSnapshot),
      Reported engine ⟨0, 0⟩ ⟨50, some ⟨0, 0⟩⟩ seen ∧
        seen.report.toOption = some ("X: 0 Y: 0\nFood: 50\n" ++
          "==Creature==\nType: Carnivore\n" ++
          "Stats: Energy: 7 E: 128 W: 128 N: 128 S: 128\n" ++
          "Genes(1):\nAttack\n============") := by
  let config := { twoTiles with initialPopulation := 0 }
  let hunted (start : Engine Script) :=
    ((shared (Habitat.place ⟨0, 0⟩ [.gene .attack] 7 .midpoint)).apply
      start).2
  let written (engine : Engine Script) :=
    ((engine.describe ⟨0, 0⟩).toOption.bind id).bind fun seen =>
      seen.report.toOption
  obtain ⟨start, made⟩ :=
    exists_make_unseeded (show config.validate = .ok () from rfl)
      (⟨#[0], 0⟩ : Script) 0 ""
  have shown :
      ((make config none (⟨#[0], 0⟩ : Script) 0 "").toOption.map
        fun start =>
          (start.world.tile? ⟨0, 0⟩, (hunted start).world.tile? ⟨0, 0⟩,
            written (hunted start))) =
        some (some ⟨50, none⟩, some ⟨50, some ⟨0, 0⟩⟩,
          some ("X: 0 Y: 0\nFood: 50\n" ++
            "==Creature==\nType: Carnivore\n" ++
            "Stats: Energy: 7 E: 128 W: 128 N: 128 S: 128\n" ++
            "Genes(1):\nAttack\n============")) := by
    decide +kernel
  rw [made] at shown
  rcases Prod.mk.inj (Option.some.inj shown) with ⟨home, shown⟩
  rcases Prod.mk.inj shown with ⟨marked, text⟩
  have bytes : Sensors.midpoint.InRange := by
    unfold Sensors.InRange
    decide
  have placed : Reachable (hunted start) :=
    (Reachable.made made).place home rfl rfl (by decide) bytes
  rcases exists_reported placed marked with ⟨seen, reported⟩
  have same : written (hunted start) = seen.report.toOption := by
    simp only [written, reported.described, Except.toOption,
      Option.bind_some, id]
  exact ⟨_, seen, reported, same.symm.trans text⟩

/-- A creature starves on a tile that has all the food whose number can be
written, and its last energy is added to that. -/
theorem unwritten_report :
    let config :=
      { twoTiles with initialPopulation := 0, startingFood := bound - 1 }
    ∃ start : Engine Script, make config none ⟨#[0], 0⟩ 0 "" = .ok start ∧
      let placed := ((shared
        (Habitat.place ⟨0, 0⟩ [.gene .nop] 1 .midpoint)).apply start).2
      let engine := (advance.apply placed).2
      Reachable engine ∧
        engine.world.tile? ⟨0, 0⟩ = some ⟨bound, none⟩ ∧
        engine.describe ⟨0, 0⟩ = .ok (some ⟨0, 0, bound, none⟩) ∧
        (⟨0, 0, bound, none⟩ : TileSnapshot).report =
          .error .longFigure := by
  intro config
  let starved (start : Engine Script) :=
    (advance.apply ((shared
      (Habitat.place ⟨0, 0⟩ [.gene .nop] 1 .midpoint)).apply start).2).2
  obtain ⟨start, made⟩ :=
    exists_make_unseeded (show config.validate = .ok () by decide +kernel)
      (⟨#[0], 0⟩ : Script) 0 ""
  have shown :
      ((make config none (⟨#[0], 0⟩ : Script) 0 "").toOption.map
        fun start =>
          (start.world.tile? ⟨0, 0⟩, (starved start).world.tile? ⟨0, 0⟩)) =
        some (some ⟨bound - 1, none⟩, some ⟨bound, none⟩) := by
    decide +kernel
  rw [made] at shown
  rcases Prod.mk.inj (Option.some.inj shown) with ⟨home, left⟩
  have bytes : Sensors.midpoint.InRange := by
    unfold Sensors.InRange
    decide
  have reached : Reachable (starved start) :=
    ((Reachable.made made).place home rfl rfl (by decide) bytes).advance
  have illegible : ¬ Legible ⟨0, 0⟩ bound := fun legible =>
    not_short_bound legible.2.2
  have refused := @report_of_illegible ⟨0, 0⟩ bound none illegible
  exact ⟨start, made, reached, left, describe_of_tile? reached.inOrder left,
    refused⟩

end Engine

end Vivarium
