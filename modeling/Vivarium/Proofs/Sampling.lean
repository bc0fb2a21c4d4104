import Vivarium.Proofs.Footprint

/-!
# Seeding as rejection sampling

A population is scattered by drawing positions until enough of them have been
accepted: a position is accepted if its tile is free at first and has not been
chosen before. So the positions that are drawn tell which tiles are chosen,
and in which order. As long as creatures are wanted there is a tile left that
would be accepted.
-/

namespace Vivarium

/-! ## Free tiles -/

namespace World

variable {world : World} {position : Position} {chosen drawn : List Position}

def vacantCount (world : World) : Nat :=
  world.tiles.countP fun tile => !tile.isOccupied

theorem occupiedCount_add_vacantCount (world : World) :
    world.occupiedCount + world.vacantCount = world.tiles.size := by
  have whole := List.length_eq_countP_add_countP Tile.isOccupied
    (l := world.tiles.toList)
  rw [Array.length_toList] at whole
  rw [occupiedCount, vacantCount, ← Array.countP_toList,
    ← Array.countP_toList, whole]
  simp

def vacancies (world : World) : List Position :=
  (world.entries.filter fun entry => !entry.2.isOccupied).map Prod.fst

private theorem length_vacancies (world : World) :
    world.vacancies.length = world.vacantCount := by
  rw [vacancies, List.length_map, ← List.countP_eq_length_filter,
    vacantCount, ← Array.countP_toList, ← map_snd_entries, List.countP_map]
  rfl

private theorem nodup_vacancies (world : World) : world.vacancies.Nodup :=
  (nodup_positions world).sublist (List.filter_sublist.map Prod.fst)

private theorem of_mem_vacancies (listed : position ∈ world.vacancies) :
    world.contains position = true ∧ world.occupant? position = none := by
  simp only [vacancies, List.mem_map, List.mem_filter, Prod.exists,
    exists_and_right, exists_eq_right] at listed
  rcases listed with ⟨tile, member, vacant⟩
  have found := mem_entries_iff.1 member
  refine ⟨contains_of_tile? found, ?_⟩
  rw [isOccupied_of_tile? found] at vacant
  simpa using vacant

/-- So many choices cannot cover all free tiles. -/
theorem exists_vacancy (few : chosen.length < world.vacantCount) :
    ∃ position, world.contains position = true ∧
      world.occupant? position = none ∧ position ∉ chosen := by
  by_contra nowhere
  have covered : world.vacancies ⊆ chosen := by
    intro position listed
    obtain ⟨onGrid, unoccupied⟩ := of_mem_vacancies listed
    by_contra unchosen
    exact nowhere ⟨position, onGrid, unoccupied, unchosen⟩
  have bound :=
    (List.subperm_of_subset (nodup_vacancies world) covered).length_le
  rw [length_vacancies] at bound
  omega

/-! ## Drawn positions -/

/-- A position is accepted after some others have been chosen. -/
def Accepts (world : World) (chosen : List Position) (position : Position) :
    Prop :=
  world.occupant? position = none ∧ position ∉ chosen

instance : Decidable (world.Accepts chosen position) :=
  inferInstanceAs (Decidable (_ ∧ _))

def choose (world : World) (chosen : List Position) (position : Position) :
    List Position :=
  if world.Accepts chosen position then chosen ++ [position] else chosen

/-- The positions out of a list that are accepted one after the other. -/
def accepted (world : World) (drawn : List Position) : List Position :=
  drawn.foldl world.choose []

private theorem accepted_snoc (world : World) (drawn : List Position)
    (position : Position) :
    world.accepted (drawn ++ [position]) =
      world.choose (world.accepted drawn) position := by
  simp only [accepted, List.foldl_append, List.foldl_cons, List.foldl_nil]

def EndsAccepted (world : World) (drawn : List Position) : Prop :=
  ∀ front position, drawn = front ++ [position] →
    world.Accepts (world.accepted front) position

private theorem endsAccepted_nil (world : World) : world.EndsAccepted [] := by
  simp [EndsAccepted]

private theorem endsAccepted_snoc
    (accepts : world.Accepts (world.accepted drawn) position) :
    world.EndsAccepted (drawn ++ [position]) := by
  intro front last cut
  obtain ⟨rfl, same⟩ := List.append_inj' cut rfl
  rw [← List.singleton_inj.1 same]
  exact accepts

def rolls (world : World) (position : Position) : List Draw :=
  [⟨world.width - 1, position.x.toNat⟩, ⟨world.height - 1, position.y.toNat⟩]

private theorem rolls_congr
    {other : World} (same : other.extent = world.extent) :
    other.rolls position = world.rolls position := by
  have width : (other.width : Int) = world.width :=
    congrArg Extent.width same
  have height : (other.height : Int) = world.height :=
    congrArg Extent.height same
  rw [rolls, rolls, Int.ofNat.inj width, Int.ofNat.inj height]

end World

namespace Habitat

variable {τ : Type}

private theorem freeTiles_eq {σ : Type} (habitat : Habitat σ) :
    habitat.freeTiles = habitat.world.vacantCount := by
  have whole := World.occupiedCount_add_vacantCount habitat.world
  rw [freeTiles, World.area_extent, ← whole]
  omega

def recording {σ : Type} (habitat : Habitat σ) (dice : τ) :
    Habitat (Recorded τ) :=
  { world := habitat.world
    store := habitat.store
    issued := habitat.issued
    dice := ⟨dice, []⟩
    journal := habitat.journal }

/-! ## What has been drawn so far -/

/-- A population is being scattered: these positions have been drawn and these
creatures have come of it. -/
structure Sampled (program : List Codon) (start : Habitat (Recorded τ))
    (drawn : List Position) (newcomers : List Creature)
    (after : Habitat (Recorded τ)) : Prop where
  inOrder : after.InOrder
  extent : after.world.extent = start.world.extent
  draws : after.dice.draws =
    (drawn.flatMap start.world.rolls).reverse ++ start.dice.draws
  /-- Whenever a position was drawn there was one that would be accepted. -/
  roomy : ∀ {front position back}, drawn = front ++ position :: back →
    ∃ vacancy, start.world.contains vacancy = true ∧
      start.world.Accepts (start.world.accepted front) vacancy
  accepted : newcomers.map Creature.position = start.world.accepted drawn
  newborn : ∀ creature ∈ newcomers, creature.program = program ∧
    creature.energy = 100 ∧ creature.sensors = ⟨128, 128, 128, 128⟩
  stored : ∀ creature ∈ newcomers,
    after.store.get creature.handle = some creature
  nodup : (newcomers.map Creature.handle).Nodup
  marked : ∀ creature ∈ newcomers,
    after.world.tile? creature.position =
      (start.world.tile? creature.position).map
        (·.hosting (some creature.handle))
  others : ∀ position ∉ newcomers.map Creature.position,
    after.world.tile? position = start.world.tile? position
  kept : ∀ {handle creature}, start.store.get handle = some creature →
    after.store.get handle = some creature

namespace Sampled

variable {program : List Codon} {start before : Habitat (Recorded τ)}
  {drawn : List Position} {newcomers : List Creature} {position : Position}
  {dice : Recorded τ}

theorem begin (inOrder : start.InOrder) :
    Sampled program start [] [] start where
  inOrder := inOrder
  extent := rfl
  draws := rfl
  roomy := by simp
  accepted := rfl
  newborn := nofun
  stored := nofun
  nodup := List.nodup_nil
  marked := nofun
  others _ _ := rfl
  kept := id

private theorem occupant?_newcomer
    (sampled : Sampled program start drawn newcomers before)
    {creature : Creature} (listed : creature ∈ newcomers) :
    before.world.occupant? creature.position = some creature.handle := by
  have consistent := sampled.inOrder.consistent
  have known := sampled.stored creature listed
  exact consistent.settled.marked (consistent.resident_of_get known).1

/-- A position is free just if it would be accepted. -/
private theorem occupant?_eq_none_iff
    (sampled : Sampled program start drawn newcomers before)
    (position : Position) :
    before.world.occupant? position = none ↔
      start.world.Accepts (start.world.accepted drawn) position := by
  rw [World.Accepts, ← sampled.accepted]
  by_cases chosen : position ∈ newcomers.map Creature.position
  · rcases List.mem_map.1 chosen with ⟨creature, listed, rfl⟩
    simp [sampled.occupant?_newcomer listed, chosen]
  · have same : before.world.occupant? position =
        start.world.occupant? position := by
      rw [World.occupant?, World.occupant?, sampled.others position chosen]
    simp [same, chosen]

section Draw

variable (sampled : Sampled program start drawn newcomers before)
  (few : newcomers.length < start.world.vacantCount)
  (rolled :
    dice.draws = (before.world.rolls position).reverse ++ before.dice.draws)
include sampled

include few in
/-- As long as the newcomers are few there is room, also for the next
draw. -/
private theorem roomy_snoc {front back : List Position} {other : Position}
    (cut : drawn ++ [position] = front ++ other :: back) :
    ∃ vacancy, start.world.contains vacancy = true ∧
      start.world.Accepts (start.world.accepted front) vacancy := by
  rcases List.eq_nil_or_concat back with rfl | ⟨rest, last, rfl⟩
  · obtain ⟨rfl, -⟩ := List.append_inj' cut rfl
    have chosen := congrArg List.length sampled.accepted
    rw [List.length_map] at chosen
    rw [chosen] at few
    exact World.exists_vacancy few
  · have earlier :
        drawn ++ [position] = (front ++ other :: rest) ++ [last] := by
      simpa using cut
    obtain ⟨same, -⟩ := List.append_inj' earlier rfl
    exact sampled.roomy same

include rolled in
private theorem draws_snoc :
    dice.draws =
      ((drawn ++ [position]).flatMap start.world.rolls).reverse ++
        start.dice.draws := by
  rw [rolled, sampled.draws, World.rolls_congr sampled.extent]
  simp

include few rolled in
/-- A position is drawn that is not free. -/
theorem miss {occupant : Handle}
    (occupied : before.world.occupant? position = some occupant) :
    Sampled program start (drawn ++ [position]) newcomers
      { before with dice } where
  inOrder := sampled.inOrder
  extent := sampled.extent
  draws := sampled.draws_snoc rolled
  roomy := sampled.roomy_snoc few
  accepted := by
    have refused :
        ¬ start.world.Accepts (start.world.accepted drawn) position := by
      rw [← sampled.occupant?_eq_none_iff, occupied]
      exact Option.some_ne_none occupant
    rw [World.accepted_snoc, World.choose, if_neg refused]
    exact sampled.accepted
  newborn := sampled.newborn
  stored := sampled.stored
  nodup := sampled.nodup
  marked := sampled.marked
  others := sampled.others
  kept := sampled.kept

/-- A newcomer gets a name that leads to nobody, and a tile of its own. -/
private theorem ne_newcomer
    (unoccupied : before.world.occupant? position = none)
    {creature : Creature} (listed : creature ∈ newcomers) :
    creature.handle ≠ before.nextHandle ∧ creature.position ≠ position := by
  have known := sampled.stored creature listed
  have taken := sampled.occupant?_newcomer listed
  constructor
  · intro same
    have nobody := sampled.inOrder.consistent.get_allocate
    rw [← nextHandle, ← same, known] at nobody
    cases nobody
  · intro same
    rw [same, unoccupied] at taken
    cases taken

include few rolled in
/-- A position is drawn that is free, and a creature is placed there. -/
theorem hit (admitted : Codon.checkProgram program = .ok ())
    (onGrid : before.world.contains position = true)
    (unoccupied : before.world.occupant? position = none) {child : Creature}
    (born : child = Creature.born before.nextHandle position program) :
    Sampled program start (drawn ++ [position]) (newcomers ++ [child])
      (({ before with dice } : Habitat (Recorded τ)).joined child) := by
  have named : child.handle = before.nextHandle :=
    congrArg Creature.handle born
  obtain rfl : position = child.position :=
    (congrArg Creature.position born).symm
  have viable : child.Viable := by
    rw [born]
    exact Creature.viable_born admitted
  have gets := sampled.inOrder.consistent.get_spawn named
  have apart : ∀ creature ∈ newcomers,
      creature.handle ≠ child.handle ∧
        creature.position ≠ child.position := by
    intro creature listed
    rw [named]
    exact sampled.ne_newcomer unoccupied listed
  have free := (sampled.occupant?_eq_none_iff child.position).1 unoccupied
  have fresh : child.position ∉ newcomers.map Creature.position := by
    rw [sampled.accepted]
    exact free.2
  refine
    { inOrder := sampled.inOrder.joined named onGrid unoccupied viable
      extent := (World.extent_setOccupant _ _ _).trans sampled.extent
      draws := sampled.draws_snoc rolled
      roomy := sampled.roomy_snoc few
      accepted := ?_, newborn := ?_, stored := ?_, nodup := ?_
      marked := ?_, others := ?_, kept := ?_ }
  · rw [World.accepted_snoc, World.choose, if_pos free, List.map_append,
      sampled.accepted]
    rfl
  · rw [List.forall_mem_append, List.forall_mem_singleton, born]
    exact ⟨sampled.newborn, rfl, rfl, rfl⟩
  · rw [List.forall_mem_append, List.forall_mem_singleton]
    refine ⟨?_, (gets child.handle).trans (if_pos rfl)⟩
    intro creature listed
    exact ((gets creature.handle).trans
      (if_neg (apart creature listed).1)).trans
        (sampled.stored creature listed)
  · rw [List.map_append, List.map_singleton, ← List.concat_eq_append]
    refine List.Nodup.concat ?_ sampled.nodup
    intro listed
    rcases List.mem_map.1 listed with ⟨creature, listed, same⟩
    exact (apart creature listed).1 same
  · rw [List.forall_mem_append, List.forall_mem_singleton]
    constructor
    · intro creature listed
      have elsewhere := (apart creature listed).2
      exact (World.tile?_setOccupant_of_ne elsewhere).trans
        (sampled.marked creature listed)
    · rw [← sampled.others child.position fresh]
      exact World.tile?_setOccupant_self
  · intro other unchosen
    rw [List.map_append, List.mem_append, not_or, List.map_singleton,
      List.mem_singleton] at unchosen
    exact (World.tile?_setOccupant_of_ne unchosen.2).trans
      (sampled.others other unchosen.1)
  · intro handle creature known
    have known := sampled.kept known
    have different : handle ≠ child.handle := by
      intro same
      rw [same, named, nextHandle, sampled.inOrder.consistent.get_allocate]
        at known
      cases known
    exact ((gets handle).trans (if_neg different)).trans known

end Draw

end Sampled

/-! ## The loops -/

section Loops

variable [Dice τ] {program : List Codon}
  {start before : Habitat (Recorded τ)} {drawn : List Position}
  {newcomers : List Creature}

private theorem succeeds_rollPosition (habitat : Habitat (Recorded τ)) :
    rollPosition.Succeeds habitat fun position after =>
      habitat.world.contains position = true ∧
        ∃ dice, after = { habitat with dice } ∧
          dice.draws =
            (habitat.world.rolls position).reverse ++
              habitat.dice.draws := by
  exact ⟨contains_rolled _ _ _, _, rfl, rfl⟩

/-- A search for a free tile draws positions that are not free, and then one
that is unless it is given up. -/
theorem Sampled.rollFree
    (sampled : Sampled program start drawn newcomers before)
    (few : newcomers.length < start.world.vacantCount) (patience : Nat) :
    (rollFree patience).Ends before
      (fun position after =>
        ∃ (misses : List Position) (between : Habitat (Recorded τ))
          (dice : Recorded τ),
          Sampled program start (drawn ++ misses) newcomers between ∧
            after = { between with dice } ∧
            dice.draws =
              (between.world.rolls position).reverse ++
                between.dice.draws ∧
            between.world.contains position = true ∧
            between.world.occupant? position = none)
      (fun fault after =>
        fault = .unfinished ∧
          ∃ misses : List Position, misses.length = patience ∧
            Sampled program start (drawn ++ misses) newcomers after) := by
  induction patience generalizing drawn before with
  | zero =>
      refine ⟨rfl, [], rfl, ?_⟩
      rw [List.append_nil]
      exact sampled
  | succ patience inductionHypothesis =>
      rw [Habitat.rollFree, Act.ends_bind]
      refine Act.Ends.mono (succeeds_rollPosition before) ?_
        fun _ _ impossible => impossible.elim
      rintro position _ ⟨onGrid, dice, rfl, rolled⟩
      obtain ⟨tile, found⟩ := World.exists_tile? onGrid
      have seen := World.isOccupied_of_tile? found
      have foundRolled :
          ({ before with dice } : Habitat (Recorded τ)).world.tile?
            position = some tile := found
      rw [Act.ends_bind, ends_inspect foundRolled]
      cases occupied : before.world.occupant? position with
      | some occupant =>
          rw [occupied, Option.isSome_some] at seen
          rw [if_pos seen]
          have missed := sampled.miss few rolled occupied
          refine (inductionHypothesis missed).mono ?_ ?_
          · rintro _ _ ⟨misses, between, last, further, rest⟩
            rw [List.append_assoc] at further
            exact ⟨position :: misses, between, last, further, rest⟩
          · rintro _ _ ⟨unfinished, misses, length, further⟩
            rw [List.append_assoc] at further
            refine ⟨unfinished, position :: misses, ?_, further⟩
            rw [List.length_cons, length]
      | none =>
          rw [occupied, Option.isSome_none] at seen
          rw [if_neg (by rw [seen]; exact Bool.false_ne_true)]
          refine ⟨[], before, dice, ?_, rfl, rolled, onGrid, occupied⟩
          rw [List.append_nil]
          exact sampled

theorem Sampled.placeOne (admitted : Codon.checkProgram program = .ok ())
    (sampled : Sampled program start drawn newcomers before)
    (few : newcomers.length < start.world.vacantCount) (patience : Nat) :
    (placeOne program patience).Ends before
      (fun handle after =>
        ∃ (drawn : List Position) (child : Creature),
          Sampled program start drawn (newcomers ++ [child]) after ∧
            start.world.EndsAccepted drawn ∧ handle = child.handle)
      (fun fault after =>
        fault = .unfinished ∧
          ∃ misses : List Position, misses.length = patience ∧
            Sampled program start (drawn ++ misses) newcomers after) := by
  rw [Habitat.placeOne, Act.ends_bind]
  refine (sampled.rollFree few patience).mono ?_ fun _ _ given => given
  rintro position _
    ⟨misses, between, dice, missed, rfl, rolled, onGrid, unoccupied⟩
  rw [Act.ends_bind, ends_spawn admitted, Act.ends_bind, ends_occupy]
  have accepts := (missed.occupant?_eq_none_iff position).1 unoccupied
  have placed := missed.hit few rolled admitted onGrid unoccupied rfl
  exact ⟨_, _, placed, World.endsAccepted_snoc accepts, rfl⟩

theorem Sampled.placeMany (admitted : Codon.checkProgram program = .ok ())
    (sampled : Sampled program start drawn newcomers before)
    (ended : start.world.EndsAccepted drawn) (patience count : Nat)
    (room : newcomers.length + count ≤ start.world.vacantCount) :
    (placeMany program patience count
        (newcomers.map Creature.handle).reverse).Ends before
      (fun handles after =>
        ∃ (drawn : List Position) (all : List Creature),
          Sampled program start drawn all after ∧
            start.world.EndsAccepted drawn ∧
            all.length = newcomers.length + count ∧
            handles = (all.map Creature.handle).reverse)
      (fun fault after =>
        fault = .unfinished ∧
          ∃ (drawn misses : List Position) (placed : List Creature),
            Sampled program start (drawn ++ misses) placed after ∧
              start.world.accepted (drawn ++ misses) =
                start.world.accepted drawn ∧
              misses.length = patience ∧
              placed.length < newcomers.length + count) := by
  induction count generalizing drawn newcomers before with
  | zero =>
      exact ⟨drawn, newcomers, sampled, ended, rfl, rfl⟩
  | succ count inductionHypothesis =>
      have few : newcomers.length < start.world.vacantCount := by omega
      rw [Habitat.placeMany, Act.ends_bind]
      refine (sampled.placeOne admitted few patience).mono ?_ ?_
      · rintro _ after ⟨further, child, placed, ended, rfl⟩
        have grown : (newcomers ++ [child]).length + count =
            newcomers.length + (count + 1) := by
          simp
          omega
        have rest := inductionHypothesis placed ended (by omega)
        rw [grown] at rest
        simpa using rest
      · rintro _ after ⟨unfinished, misses, length, missed⟩
        have same := missed.accepted.symm.trans sampled.accepted
        exact ⟨unfinished, drawn, misses, newcomers, missed, same, length,
          by omega⟩

omit [Dice τ] in
theorem Sampled.noted
    (sampled : Sampled program start drawn newcomers before)
    (journal : List Notice) :
    Sampled program start drawn newcomers { before with journal } :=
  { sampled with }

omit [Dice τ] in
/-- A tile may get an occupant, but its food stays. -/
theorem Sampled.food_eq
    (sampled : Sampled program start drawn newcomers before)
    (position : Position) :
    (before.world.tile? position).map Tile.food =
      (start.world.tile? position).map Tile.food := by
  by_cases chosen : position ∈ newcomers.map Creature.position
  · rcases List.mem_map.1 chosen with ⟨creature, listed, rfl⟩
    rw [sampled.marked creature listed, Option.map_map]
    rfl
  · rw [sampled.others position chosen]

theorem InOrder.populate (inOrder : start.InOrder)
    (admitted : Codon.checkProgram program = .ok ()) (patience : Nat)
    {count : Int} (room : count ≤ start.world.vacantCount) :
    (populate count program patience).Ends start
      (fun handles after =>
        ∃ (drawn : List Position) (newcomers : List Creature),
          Sampled program start drawn newcomers after ∧
            start.world.EndsAccepted drawn ∧
            newcomers.length = count.toNat ∧
            handles = newcomers.map Creature.handle)
      (fun fault after =>
        fault = .unfinished ∧
          ∃ (drawn misses : List Position) (newcomers : List Creature),
            Sampled program start (drawn ++ misses) newcomers after ∧
              start.world.accepted (drawn ++ misses) =
                start.world.accepted drawn ∧
              misses.length = patience ∧
              newcomers.length < count.toNat) := by
  have enough : ¬ start.freeTiles < count := by
    rw [freeTiles_eq]
    omega
  have fits : ([] : List Creature).length + count.toNat ≤
      start.world.vacantCount := by
    simp
    omega
  have loop := (Sampled.begin inOrder).placeMany admitted
    (World.endsAccepted_nil start.world) patience count.toNat fits
  rw [List.length_nil, Nat.zero_add] at loop
  rw [Habitat.populate, Act.ends_bind, Act.ends_get, if_neg enough,
    Act.ends_bind]
  refine loop.mono ?_ fun _ _ given => given
  rintro _ after ⟨drawn, newcomers, sampled, ended, length, rfl⟩
  rw [Act.ends_bind, ends_note, List.reverse_reverse]
  exact ⟨drawn, newcomers, sampled.noted _, ended, length, rfl⟩

/-- How the seeding of a population ends. -/
structure Seeding (program : List Codon) (count : Int) (patience : Nat)
    (start : Habitat (Recorded τ)) (result : Except Fault (List Handle))
    (after : Habitat (Recorded τ)) : Prop where
  refused_iff : (∃ wanted free, result = .error (.crowded wanted free)) ↔
    (start.world.vacantCount : Int) < count ∧ Figure.Short count
  /-- A seeding that is refused leaves no trace. The refusal tells the number
  that was asked for, which may be too long. -/
  refused : (start.world.vacantCount : Int) < count →
    result = .error (if Figure.Short count then
        .crowded count start.world.vacantCount else .longFigure) ∧
      after = start
  /-- Otherwise it goes on until enough creatures are placed, or until a
  search is given up that has drawn nothing but positions that are not
  accepted. -/
  sampled : count ≤ start.world.vacantCount →
    ∃ drawn newcomers, Sampled program start drawn newcomers after ∧
      ((result = .ok (newcomers.map Creature.handle) ∧
          newcomers.length = count.toNat ∧
          start.world.EndsAccepted drawn) ∨
        (result = .error .unfinished ∧ newcomers.length < count.toNat ∧
          ∃ front misses, drawn = front ++ misses ∧
            misses.length = patience ∧
            start.world.accepted drawn = start.world.accepted front))
  food : ∀ position,
    (after.world.tile? position).map Tile.food =
      (start.world.tile? position).map Tile.food
  bijective : after.world.marks.Perm
    (after.store.creatures.map fun creature =>
      (creature.position, creature.handle))
  marksNodup : (after.world.marks.map Prod.snd).Nodup

omit [Dice τ] in
private theorem InOrder.nodup_marked (inOrder : start.InOrder) :
    (start.world.marks.map Prod.snd).Nodup := by
  have names := inOrder.consistent.marks_perm.map Prod.snd
  rw [List.map_map] at names
  exact names.nodup_iff.2 inOrder.consistent.nodup_handles

variable {count : Int} {patience : Nat}
  {result : Except Fault (List Handle)} {after : Habitat (Recorded τ)}

private theorem seeding_of_crowded (inOrder : start.InOrder)
    (crowded : (start.world.vacantCount : Int) < count)
    (ran : (populate count program patience).apply start = (result, after)) :
    Seeding program count patience start result after := by
  have refusal : (populate count program patience).Ends start
      (fun _ _ => False)
      fun fault after =>
        fault = (if Figure.Short count then
          .crowded count start.world.vacantCount else .longFigure) ∧
          after = start := by
    rw [← freeTiles_eq] at crowded ⊢
    rw [populate, Act.ends_bind, Act.ends_get, if_pos crowded]
    exact ⟨Fault.raised_crowded count _, rfl⟩
  have ended := refusal.of_apply ran
  cases result with
  | ok handles =>
      exact ended.elim
  | error fault =>
      rcases ended with ⟨rfl, rfl⟩
      exact
        { refused_iff := by split <;> simp [*]
          refused := fun _ => ⟨rfl, rfl⟩
          sampled := fun room => absurd crowded (Int.not_lt.2 room)
          food := fun _ => rfl
          bijective := inOrder.consistent.marks_perm
          marksNodup := inOrder.nodup_marked }

private theorem seeding_of_room (inOrder : start.InOrder)
    (admitted : Codon.checkProgram program = .ok ())
    (room : count ≤ start.world.vacantCount)
    (ran : (populate count program patience).apply start = (result, after)) :
    Seeding program count patience start result after := by
  have spacious : ¬ (start.world.vacantCount : Int) < count :=
    Int.not_lt.2 room
  have ended := (inOrder.populate admitted patience room).of_apply ran
  have sampled : ∃ drawn newcomers,
      Sampled program start drawn newcomers after ∧
        ((result = .ok (newcomers.map Creature.handle) ∧
            newcomers.length = count.toNat ∧
            start.world.EndsAccepted drawn) ∨
          (result = .error .unfinished ∧ newcomers.length < count.toNat ∧
            ∃ front misses, drawn = front ++ misses ∧
              misses.length = patience ∧
              start.world.accepted drawn = start.world.accepted front)) := by
    cases result with
    | ok handles =>
        rcases ended with ⟨drawn, newcomers, sampled, last, length, rfl⟩
        exact ⟨drawn, newcomers, sampled, Or.inl ⟨rfl, length, last⟩⟩
    | error fault =>
        rcases ended with
          ⟨rfl, front, misses, newcomers, sampled, same, length, fewer⟩
        exact ⟨front ++ misses, newcomers, sampled,
          Or.inr ⟨rfl, fewer, front, misses, rfl, length, same⟩⟩
  obtain ⟨drawn, newcomers, scattered, finish⟩ := sampled
  have notRefused :
      ¬ ∃ wanted free, result = .error (.crowded wanted free) := by
    rintro ⟨wanted, free, rfl⟩
    simp at finish
  exact
    { refused_iff := by simp [notRefused, spacious]
      refused := fun crowded => absurd crowded spacious
      sampled := fun _ => ⟨drawn, newcomers, scattered, finish⟩
      food := scattered.food_eq
      bijective := scattered.inOrder.consistent.marks_perm
      marksNodup := scattered.inOrder.nodup_marked }

end Loops

end Habitat

/-! ## In any run -/

namespace Engine

open Habitat

variable {σ τ : Type} [Dice σ] [Dice τ] {engine : Engine σ}

/-- Whatever state a simulation is in, and whatever is rolled. -/
theorem populate_samples (reachable : Reachable engine)
    {program : List Codon}
    (admitted : Codon.checkProgram program = .ok ()) (count : Int)
    (patience : Nat) (dice : τ) :
    Seeding program count patience (engine.toHabitat.recording dice)
      ((populate count program patience).apply
        (engine.toHabitat.recording dice)).1
      ((populate count program patience).apply
        (engine.toHabitat.recording dice)).2 := by
  have inOrder : (engine.toHabitat.recording dice).InOrder :=
    reachable.inOrder
  by_cases room : count ≤ (engine.toHabitat.recording dice).world.vacantCount
  · exact seeding_of_room inOrder admitted room rfl
  · exact seeding_of_crowded inOrder (Int.not_le.1 room) rfl

/-- A new grid of two tiles is to take more creatures than can be written. -/
theorem populate_longFigure :
    ∃ engine : Engine Script, Reachable engine ∧
      let start := engine.toHabitat.recording (⟨#[0], 0⟩ : Script)
      (start.world.vacantCount : Int) < Figure.bound ∧
        (populate Figure.bound [.gene .nop] 1).apply start =
          (.error .longFigure, start) := by
  obtain ⟨engine, made⟩ :=
    exists_make_unseeded (show twoTiles.validate = .ok () from rfl)
      (⟨#[0], 0⟩ : Script) 0 ""
  have figures :
      ((make twoTiles none (⟨#[0], 0⟩ : Script) 0 "").toOption.map
        fun engine => engine.world.vacantCount) = some 2 := by
    decide +kernel
  rw [made] at figures
  have reachable : Reachable engine := .made made
  refine ⟨engine, reachable, ?_⟩
  intro start
  have crowded : (start.world.vacantCount : Int) < Figure.bound := by
    have two : start.world.vacantCount = 2 := Option.some.inj figures
    rw [two]
    decide +kernel
  have inOrder : start.InOrder := reachable.inOrder
  have seeding :=
    @seeding_of_crowded _ _ [.gene .nop] start _ 1 _ _ inOrder crowded rfl
  obtain ⟨result, same⟩ := seeding.refused crowded
  rw [if_neg Figure.not_short_bound] at result
  exact ⟨crowded, Prod.ext result same⟩

/-- On two tiles, one of which is taken, a further creature is placed. The
first position that is drawn is refused. -/
theorem second_draw_sampled :
    ∃ (engine : Engine Script) (after : Habitat (Recorded Script)),
      engine.store.liveCount = 1 ∧
        (populate 1 [.gene .nop] 2).apply
            (engine.toHabitat.recording (⟨#[1, 0, 0, 0], 0⟩ : Script)) =
          (.ok [⟨1, 1⟩], after) ∧
        after.dice.draws = [⟨0, 0⟩, ⟨1, 0⟩, ⟨0, 0⟩, ⟨1, 1⟩] ∧
        Seeding [.gene .nop] 1 2
          (engine.toHabitat.recording (⟨#[1, 0, 0, 0], 0⟩ : Script))
          (.ok [⟨1, 1⟩]) after := by
  let dice : Script := ⟨#[1, 0, 0, 0], 0⟩
  let further (engine : Engine Script) :=
    (populate 1 [.gene .nop] 2).apply (engine.toHabitat.recording dice)
  obtain ⟨start, made⟩ :=
    exists_make_unseeded (show twoTiles.validate = .ok () from rfl)
      (⟨#[1], 0⟩ : Script) 0 ""
  have figures :
      ((make twoTiles none (⟨#[1], 0⟩ : Script) 0 "").toOption.map
        fun start =>
          let engine := ((setup 1).apply start).2
          (engine.store.liveCount, (further engine).1,
            (further engine).2.dice.draws)) =
        some (1, .ok [⟨1, 1⟩], [⟨0, 0⟩, ⟨1, 0⟩, ⟨0, 0⟩, ⟨1, 1⟩]) := by
    decide +kernel
  rw [made] at figures
  rcases Prod.mk.inj (Option.some.inj figures) with ⟨alive, figures⟩
  rcases Prod.mk.inj figures with ⟨answer, draws⟩
  have reachable : Reachable ((setup 1).apply start).2 :=
    .step (.made made) (.seeded 1 rfl)
  have seeding :=
    populate_samples reachable (show Codon.checkProgram [.gene .nop] = .ok ()
      from rfl) 1 2 dice
  rw [← answer]
  exact ⟨_, _, alive, Prod.ext rfl rfl, draws, seeding⟩

end Engine

end Vivarium
