import Vivarium.Proofs.Actions

/-!
# Sensing

What the registers of a creature hold after it has sensed or inverted them.
They stay bytes.
-/

namespace Vivarium

variable {σ : Type}

namespace Turn

variable {turn : Turn σ}

def view (turn : Turn σ) (reading : Tile → Int) (direction : Direction) :
    Nat :=
  ((turn.world.tile?
    (turn.world.neighbor turn.actor.position direction.offset)).elim 0
      reading).toNat

/-- The registers that hold the readings of the four tiles around. -/
def readings (turn : Turn σ) (reading : Tile → Int) : Sensors where
  east := turn.view reading .east
  west := turn.view reading .west
  north := turn.view reading .north
  south := turn.view reading .south

theorem foodReading_byte (tile : Tile) :
    0 ≤ foodReading tile ∧ foodReading tile ≤ registerMax := by
  unfold foodReading saturate registerMax
  split <;> omega

theorem creatureReading_byte (tile : Tile) :
    0 ≤ creatureReading tile ∧ creatureReading tile ≤ registerMax := by
  unfold creatureReading registerMax
  split <;> omega

theorem inRange_readings {reading : Tile → Int}
    (bytes : ∀ tile, 0 ≤ reading tile ∧ reading tile ≤ registerMax) :
    (turn.readings reading).InRange := by
  have bounded : ∀ direction, turn.view reading direction ≤ registerMax := by
    intro direction
    unfold view
    cases turn.world.tile?
        (turn.world.neighbor turn.actor.position direction.offset) with
    | none =>
        exact Nat.zero_le _
    | some tile =>
        have byte := bytes tile
        rw [Option.elim_some]
        omega
  exact ⟨bounded .east, bounded .west, bounded .north, bounded .south⟩

end Turn

namespace Sensors

def mirrored (sensors : Sensors) : Sensors where
  east := registerMax - sensors.east
  west := registerMax - sensors.west
  north := registerMax - sensors.north
  south := registerMax - sensors.south

theorem inRange_mirrored (sensors : Sensors) : sensors.mirrored.InRange :=
  ⟨Nat.sub_le _ _, Nat.sub_le _ _, Nat.sub_le _ _, Nat.sub_le _ _⟩

def mirror (sensors : Sensors) (direction : Direction) : Sensors :=
  sensors.put direction (registerMax - sensors.get direction)

private theorem set_reflected (sensors : Sensors) (direction : Direction)
    (byte : sensors.get direction ≤ registerMax) :
    sensors.set direction (sensors.reflected direction) =
      .ok (sensors.mirror direction) := by
  have reflected :
      sensors.reflected direction =
        ((registerMax - sensors.get direction : Nat) : Int) := by
    unfold Sensors.reflected
    omega
  rw [reflected, Sensors.set, if_pos (by omega), Int.toNat_natCast]
  rfl

private theorem invert_eq_ok {sensors : Sensors} (inRange : sensors.InRange) :
    sensors.invert = .ok sensors.mirrored := by
  rcases inRange with ⟨east, west, north, south⟩
  simp only [invert, Direction.all, List.foldlM_cons, List.foldlM_nil, bind,
    Except.bind]
  -- each register is still untouched when its turn comes
  rw [set_reflected sensors .east east]
  dsimp only
  rw [set_reflected (sensors.mirror .east) .west west]
  dsimp only
  rw [set_reflected ((sensors.mirror .east).mirror .west) .north north]
  dsimp only
  rw [set_reflected
    (((sensors.mirror .east).mirror .west).mirror .north) .south south]
  rfl

end Sensors

namespace Turn

variable {turn : Turn σ} {reading : Tile → Int}

def load (reading : Tile → Int) (direction : Direction) :
    Act (Turn σ) Unit := do
  let turn ← get
  let place := turn.world.neighbor turn.actor.position direction.offset
  let tile ← shared (Habitat.inspect place)
  let sensors ← turn.actor.sensors.set direction (reading tile)
  modify fun turn => { turn with actor.sensors := sensors }

private theorem sense_eq :
    (sense reading : Act (Turn σ) Unit) =
      Direction.all.forM (load reading) :=
  rfl

private theorem ends_load
    (bytes : ∀ tile, 0 ≤ reading tile ∧ reading tile ≤ registerMax)
    (onGrid : turn.world.contains turn.actor.position = true)
    (direction : Direction) {post : Unit → Turn σ → Prop}
    {fail : Fault → Turn σ → Prop} :
    (load reading direction).Ends turn post fail ↔
      post ()
        { turn with
          actor.sensors :=
            turn.actor.sensors.put direction
              (turn.view reading direction) } := by
  obtain ⟨tile, found⟩ :=
    World.exists_tile? (World.contains_neighbor onGrid direction)
  have loaded : turn.view reading direction = (reading tile).toNat := by
    rw [view, found]
    rfl
  have written :
      turn.actor.sensors.set direction (reading tile) =
        .ok (turn.actor.sensors.put direction
          (turn.view reading direction)) := by
    rw [Sensors.set, if_pos (bytes tile), loaded]
  simp only [load, Act.ends_bind, Act.ends_get, ends_shared,
    Habitat.ends_inspect found, Act.ends_liftM written, Act.ends_modify]

theorem ends_sense
    (bytes : ∀ tile, 0 ≤ reading tile ∧ reading tile ≤ registerMax)
    (onGrid : turn.world.contains turn.actor.position = true)
    {post : Unit → Turn σ → Prop} {fail : Fault → Turn σ → Prop} :
    (sense reading).Ends turn post fail ↔
      post () { turn with actor.sensors := turn.readings reading } := by
  have unrolled :
      (Direction.all.forM (load reading) : Act (Turn σ) Unit) =
        (load reading .east >>= fun _ => load reading .west >>= fun _ =>
          load reading .north >>= fun _ => load reading .south >>= fun _ =>
            pure ()) :=
    rfl
  rw [sense_eq, unrolled, Act.ends_bind, ends_load bytes, Act.ends_bind,
    ends_load bytes, Act.ends_bind, ends_load bytes, Act.ends_bind,
    ends_load bytes, Act.ends_pure]
  · rfl
  -- the actor never leaves its tile
  all_goals exact onGrid

theorem ends_invert (inRange : turn.actor.sensors.InRange)
    {post : Unit → Turn σ → Prop} {fail : Fault → Turn σ → Prop} :
    invert.Ends turn post fail ↔
      post () { turn with actor.sensors := turn.actor.sensors.mirrored } := by
  simp only [invert, Act.ends_bind, Act.ends_get,
    Act.ends_liftM (Sensors.invert_eq_ok inRange), Act.ends_modify]

end Turn

end Vivarium
