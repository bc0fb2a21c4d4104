import Vivarium.Proofs.Renaming

/-!
# Simulations side by side

Several simulations of one process draw their stamps from one count. So the
calls of the one change the stamps that the others get, and nothing else: each
of them goes its way as if it were alone and its stamps began at zero.
-/

namespace Vivarium

open Act

variable {σ : Type} {extent : Extent} {rename rename' : Nat → Nat}

namespace Engine

open Habitat

/-- Where the stamps begin does not matter to a new simulation. -/
theorem make_issued {config : Config} {seed : Option Int} {dice : σ}
    {issued : Nat} {runId : String} {engine : Engine σ}
    (made : make config seed dice issued runId = .ok engine)
    (issued' : Nat) :
    make config seed dice issued' runId =
      .ok { engine with issued := issued' } := by
  obtain ⟨accepted, writable, world, worldMade, rfl⟩ :=
    make_eq_ok_iff.1 made
  exact make_eq_ok_iff.2 ⟨accepted, writable, world, worldMade, rfl⟩

/-! ## Calls -/

inductive Call where
  | seed (patience : Nat)
  | place (position : Position) (program : List Codon) (energy : Int)
      (sensors : Sensors)
  | advance

inductive Reply where
  | seeded (result : Except Fault (List Handle))
  | placed (result : Except Fault Handle)
  | advanced (result : Except Fault Bool)

namespace Reply

def restamped (rename : Nat → Nat) : Reply → Reply
  | seeded result =>
    seeded (result.map (List.map (Relabelling.restamping rename).handle))
  | placed result =>
    placed (result.map (Relabelling.restamping rename).handle)
  | advanced result => advanced result

def Known (issued : Nat) : Reply → Prop
  | seeded result =>
    ∀ handles, result = .ok handles →
      ∀ handle ∈ handles, handle.generation < issued
  | placed result =>
    ∀ handle, result = .ok handle → handle.generation < issued
  | advanced _ => True

private theorem restamped_congr {reply : Reply} {issued : Nat}
    (known : reply.Known issued)
    (agree : ∀ stamp < issued, rename' stamp = rename stamp) :
    reply.restamped rename' = reply.restamped rename := by
  have same : ∀ handle : Handle, handle.generation < issued →
      (Relabelling.restamping rename').handle handle =
        (Relabelling.restamping rename).handle handle := by
    intro handle used
    simp [Relabelling.handle, Relabelling.restamping, agree _ used]
  cases reply with
  | seeded result =>
      cases result with
      | error fault =>
          rfl
      | ok handles =>
          simp only [restamped, Except.map, seeded.injEq, Except.ok.injEq]
          exact List.map_congr_left fun handle listed =>
            same handle (known handles rfl handle listed)
  | placed result =>
      cases result with
      | error fault =>
          rfl
      | ok handle =>
          simp only [restamped, Except.map, same handle (known handle rfl)]
  | advanced result =>
      rfl

end Reply

section Setup

variable [Dice σ]

theorem inStep_setup (fits : (Relabelling.restamping rename).Fits extent)
    (patience : Nat) :
    InStep (Alike (σ := σ) (.restamping rename) extent) (Renamed rename) Eq
      (setup patience) (setup patience) := by
  refine inStep_get.bind ?_
  intro engine engine' alike
  have config := congrArg Engine.config alike.rest
  dsimp only
  rw [config]
  exact inStep_shared (inStep_populate fits _ _ patience)

end Setup

namespace Call

/-- A placement has to be that of a valid creature on a free tile. -/
def Valid (engine : Engine σ) : Call → Prop
  | place position program energy sensors =>
    (1 ≤ program.length ∧ program.length ≤ Gene.maxProgram) ∧
      (∀ codon ∈ program, codon.isGene = true) ∧ 0 ≤ energy ∧
      sensors.InRange ∧
      (engine.world.tile? position).map Tile.occupant = some none
  | _ => True

instance (sensors : Sensors) : Decidable sensors.InRange :=
  inferInstanceAs (Decidable (_ ∧ _ ∧ _ ∧ _))

instance decidableValid (engine : Engine σ) :
    (call : Call) → Decidable (call.Valid engine)
  | seed _ | advance => .isTrue trivial
  | place _ _ _ _ => inferInstanceAs (Decidable (_ ∧ _ ∧ _ ∧ _ ∧ _))

variable [Dice σ]

def perform (engine : Engine σ) : Call → Reply × Engine σ
  | seed patience =>
    let (result, after) := (setup patience).apply engine
    (.seeded result, after)
  | place position program energy sensors =>
    let (result, after) :=
      (shared (Habitat.place position program energy sensors)).apply engine
    (.placed result, after)
  | advance =>
    let (result, after) := Engine.advance.apply engine
    (.advanced result, after)

variable {engine engine' : Engine σ} {call : Call}

theorem Valid.step (valid : call.Valid engine) :
    Step engine (call.perform engine).2 := by
  cases call with
  | seed patience =>
      exact .seeded patience rfl
  | place position program energy sensors =>
      rcases valid with ⟨sized, native, enough, bytes, free⟩
      rcases Option.map_eq_some_iff.1 free with ⟨tile, found, vacant⟩
      exact .placed sized native enough bytes found vacant rfl
  | advance =>
      exact .advanced rfl

theorem Valid.issued_le (valid : call.Valid engine)
    (inOrder : engine.toHabitat.InOrder) :
    engine.issued ≤ (call.perform engine).2.issued :=
  (valid.step.outcome inOrder).issued_le inOrder

theorem Valid.known (valid : call.Valid engine)
    (inOrder : engine.toHabitat.InOrder) :
    (call.perform engine).1.Known (call.perform engine).2.issued := by
  cases call with
  | seed patience =>
      intro handles answered handle listed
      have ended :=
        (ends_setup patience engine).of_apply (Prod.ext answered rfl)
      obtain ⟨placed, habitat, sown, later, rfl, -⟩ := ended
      have used := sown.issued_le.2 handle (List.mem_reverse.1 listed)
      have stamps := congrArg (fun later => later.issued) later
      exact Nat.lt_of_lt_of_eq used stamps.symm
  | place position program energy sensors =>
      rcases valid with ⟨sized, native, -, -, free⟩
      rcases Option.map_eq_some_iff.1 free with ⟨tile, found, -⟩
      have applied :
          (shared (Habitat.place position program energy sensors)).apply
            engine = _ := apply_place inOrder sized native found
      simp only [perform, applied]
      intro handle same
      obtain rfl := Except.ok.inj same
      have stamp : engine.nextHandle.generation = engine.issued :=
        Store.generation_allocate _ _
      have next : (engine.joined (engine.guest position program energy
          sensors)).issued = engine.issued + 1 :=
        Store.issued_allocate _ _
      omega
  | advance =>
      trivial

/-- A call of a simulation and the same call of its image. -/
theorem Valid.inStep (valid : call.Valid engine)
    (increasing : StrictMono rename) (inOrder : engine.toHabitat.InOrder)
    (alike : Alike (.restamping rename) extent engine engine') :
    (call.perform engine').1 = (call.perform engine).1.restamped rename ∧
      Alike (.restamping rename) extent (call.perform engine).2
        (call.perform engine').2 := by
  have fits := Relabelling.fits_restamping increasing extent
  cases call with
  | seed patience =>
      rcases inStep_setup fits patience _ _ alike with ⟨answers, later⟩
      exact ⟨congrArg Reply.seeded answers.eq_map, later⟩
  | place position program energy sensors =>
      rcases valid with ⟨-, -, -, -, free⟩
      rcases Option.map_eq_some_iff.1 free with ⟨tile, found, -⟩
      have onGrid := World.contains_of_tile? found
      rw [alike.habitat.contains] at onGrid
      rcases Engine.inStep_shared
        (inStep_place fits onGrid program energy sensors) _ _ alike with
        ⟨answers, later⟩
      exact ⟨congrArg Reply.placed answers.eq_map, later⟩
  | advance =>
      obtain ⟨answer, after, applied, -⟩ :=
        (succeeds_advance inOrder).exists_apply
      obtain ⟨_, after', applied', rfl, later⟩ :=
        (inStep_advance fits).exists_apply alike applied
      simp only [perform, applied, applied']
      exact ⟨rfl, later⟩

end Call

/-! ## Processes -/

variable {ι : Type} {τ : ι → Type}

/-- Simulations that draw their stamps from one count. Each has a source of
random numbers of its own, and of its own kind. -/
structure Process (τ : ι → Type) where
  engines : (member : ι) → Engine (τ member)
  issued : Nat

namespace Process

/-- One of the simulations, with the count as it is now. -/
def seen (process : Process τ) (member : ι) :
    Engine (τ member) :=
  { process.engines member with issued := process.issued }

variable [DecidableEq ι] [∀ member, Dice (τ member)]

def perform (process : Process τ) (member : ι) (call : Call) :
    Reply × Process τ :=
  let (reply, engine) := call.perform (process.seen member)
  (reply,
    { engines := Function.update process.engines member engine
      issued := engine.issued })

def after (process : Process τ) : List (ι × Call) → Process τ
  | [] => process
  | (member, call) :: rest => (process.perform member call).2.after rest

def replies (process : Process τ) (member : ι) :
    List (ι × Call) → List Reply
  | [] => []
  | (called, call) :: rest =>
    let (reply, later) := process.perform called call
    if called = member then reply :: later.replies member rest
    else later.replies member rest

def Valid (process : Process τ) : List (ι × Call) → Prop
  | [] => True
  | (member, call) :: rest =>
    call.Valid (process.engines member) ∧
      (process.perform member call).2.Valid rest

instance decidableValid :
    (process : Process τ) → (calls : List (ι × Call)) →
      Decidable (process.Valid calls)
  | _, [] => .isTrue trivial
  | process, (member, call) :: rest =>
    have := decidableValid (process.perform member call).2 rest
    inferInstanceAs (Decidable (_ ∧ _))

end Process

def own [DecidableEq ι] (member : ι) : List (ι × Call) → List Call
  | [] => []
  | (called, call) :: rest =>
    if called = member then call :: own member rest else own member rest

section Alone

variable [Dice σ]

def afterCalls (engine : Engine σ) : List Call → Engine σ
  | [] => engine
  | call :: rest => (call.perform engine).2.afterCalls rest

def replies (engine : Engine σ) : List Call → List Reply
  | [] => []
  | call :: rest =>
    let (reply, later) := call.perform engine
    reply :: later.replies rest

end Alone

/-! ## Renamings along the way -/

/-- Stamps below a bound are renamed as before, the others one after the
other. -/
def extended (rename : Nat → Nat) (bound next : Nat) (stamp : Nat) : Nat :=
  if stamp < bound then rename stamp else next + (stamp - bound)

private theorem strictMono_extended (increasing : StrictMono rename)
    {bound next : Nat} (fresh : ∀ stamp < bound, rename stamp < next) :
    StrictMono (extended rename bound next) := by
  intro left right ascending
  unfold extended
  by_cases new : left < bound
  · rw [if_pos new]
    by_cases alsoNew : right < bound
    · rw [if_pos alsoNew]
      exact increasing ascending
    · rw [if_neg alsoNew]
      exact Nat.lt_add_right _ (fresh left new)
  · rw [if_neg new, if_neg (by omega)]
    omega

private theorem extended_of_lt {bound next stamp : Nat} (used : stamp < bound) :
    extended rename bound next stamp = rename stamp :=
  if_pos used

private theorem extended_of_le
    {bound next stamp : Nat} (unused : bound ≤ stamp) :
    extended rename bound next stamp = next + (stamp - bound) :=
  if_neg (Nat.not_lt.2 unused)

variable {process : Process τ} {member called : ι}
  {lone : Engine (τ member)} {call : Call}

/-- Before a call the stamps that it may draw are matched. -/
private theorem alike_extended [Dice (τ member)] (reachable : Reachable lone)
    (image : Image (.restamping rename) lone (process.seen member)) :
    Alike (.restamping (extended rename lone.issued process.issued))
      lone.config.extent lone (process.seen member) := by
  refine ⟨⟨image.habitat.restamp reachable.inOrder fun stamp used =>
      extended_of_lt used, reachable.measured, reachable.grounded, ?_, ?_⟩,
    image.rest⟩
  · show process.issued = extended rename _ _ _
    rw [extended_of_le (Nat.le_refl _), Nat.sub_self, Nat.add_zero]
  · intro stamp unused
    show extended rename _ _ _ = extended rename _ _ _ + 1
    rw [extended_of_le unused, extended_of_le (Nat.le_succ_of_le unused)]
    omega

/-- A placement that is valid for the image is valid for the original. -/
private theorem Call.Valid.of_image {engine engine' : Engine σ}
    (image : Image (.restamping rename) engine engine')
    (valid : call.Valid engine') : call.Valid engine := by
  cases call with
  | seed patience | advance =>
      trivial
  | place position program energy sensors =>
      rcases valid with ⟨sized, native, enough, bytes, free⟩
      rcases Option.map_eq_some_iff.1 free with ⟨tile', found', vacant⟩
      have onGrid := World.contains_of_tile? found'
      rw [World.contains, image.habitat.world.extent] at onGrid
      rcases World.exists_tile? onGrid with ⟨tile, found⟩
      have same := image.habitat.world.tile position onGrid
      rw [found] at same
      refine ⟨sized, native, enough, bytes,
        Option.map_eq_some_iff.2 ⟨tile, found, ?_⟩⟩
      have seen : tile' = (Relabelling.restamping rename).tile tile :=
        Option.some.inj (found'.symm.trans same)
      rw [seen] at vacant
      exact Option.map_eq_none_iff.1 vacant

theorem Call.Valid.seen (valid : call.Valid (process.engines member)) :
    call.Valid (process.seen member) := by
  cases call <;> exact valid

section Courses

variable [DecidableEq ι] [∀ member, Dice (τ member)]

private theorem seen_perform_self :
    (process.perform member call).2.seen member =
      (call.perform (process.seen member)).2 := by
  simp [Process.perform, Process.seen]

private theorem seen_perform_of_ne (different : member ≠ called) :
    (process.perform called call).2.seen member =
      { process.seen member with
        issued := (process.perform called call).2.issued } := by
  simp [Process.perform, Process.seen, different]

/-- The count never falls. -/
private theorem issued_le_perform
    (sound : ∀ member, Reachable (process.seen member))
    (valid : call.Valid (process.engines called)) :
    process.issued ≤ (process.perform called call).2.issued :=
  valid.seen.issued_le (sound called).inOrder

/-- After a call every simulation of the process is still in a state that its
host alone could have brought about. -/
private theorem reachable_perform
    (sound : ∀ member, Reachable (process.seen member))
    (valid : call.Valid (process.engines called)) (member : ι) :
    Reachable ((process.perform called call).2.seen member) := by
  by_cases same : member = called
  · subst same
    rw [seen_perform_self]
    exact .step (sound member) valid.seen.step
  · rw [seen_perform_of_ne same]
    exact .step (sound member)
      (.aside (issued_le_perform sound valid) (process.seen member).journal)

/-- A call of another simulation does not change the image. -/
private theorem image_perform_of_ne (different : member ≠ called)
    (image : Image (.restamping rename) lone (process.seen member))
    (call : Call) :
    Image (.restamping rename) lone
      ((process.perform called call).2.seen member) := by
  rw [seen_perform_of_ne different]
  refine ⟨⟨image.habitat.world, image.habitat.store, image.habitat.dice⟩, ?_⟩
  exact congrArg
    (fun engine =>
      { engine with issued := (process.perform called call).2.issued })
    image.rest

/-- The course of one simulation of a process, next to that of the same one
alone: renamings agree on the stamps in use. -/
theorem exists_rename (sound : ∀ member, Reachable (process.seen member))
    (reachable : Reachable lone) (increasing : StrictMono rename)
    (image : Image (.restamping rename) lone (process.seen member))
    (fresh : ∀ stamp < lone.issued, rename stamp < process.issued)
    {calls : List (ι × Call)} (valid : process.Valid calls) :
    ∃ rename', StrictMono rename' ∧
      (∀ stamp < lone.issued, rename' stamp = rename stamp) ∧
      ∀ earlier, earlier <+: calls →
        Image (.restamping rename') (lone.afterCalls (own member earlier))
            ((process.after earlier).seen member) ∧
          process.replies member earlier =
            (lone.replies (own member earlier)).map
              (Reply.restamped rename') := by
  induction calls generalizing process lone rename with
  | nil =>
      refine ⟨rename, increasing, fun _ _ => rfl, ?_⟩
      intro earlier initial
      rw [List.prefix_nil.1 initial]
      exact ⟨image, rfl⟩
  | cons entry rest inductionHypothesis =>
      rcases entry with ⟨called, call⟩
      rcases valid with ⟨validCall, validRest⟩
      have soundAfter := reachable_perform sound validCall
      by_cases same : called = member
      · subst same
        -- the stamps that the call may draw get their new numbers before it
        have inOrder := reachable.inOrder
        have validLone := validCall.seen.of_image image
        have increasing' := strictMono_extended increasing fresh
        rcases validLone.inStep increasing' inOrder
          (alike_extended reachable image) with ⟨answered, alike⟩
        have imageAfter := alike.image
        rw [← seen_perform_self] at imageAfter
        obtain ⟨rename', increasingLast, agree, along⟩ :=
          inductionHypothesis soundAfter
            (.step reachable validLone.step) increasing' imageAfter
            (fun stamp used =>
              (increasing' used).trans_eq alike.habitat.issued.symm)
            validRest
        have agreeBefore : ∀ stamp < lone.issued,
            rename' stamp = rename stamp := by
          intro stamp used
          rw [agree stamp (used.trans_le (validLone.issued_le inOrder)),
            extended_of_lt used]
        refine ⟨rename', increasingLast, agreeBefore, ?_⟩
        intro earlier initial
        rcases List.prefix_cons_iff.1 initial with rfl | ⟨later, rfl, short⟩
        · exact ⟨⟨image.habitat.restamp inOrder agreeBefore, image.rest⟩,
            rfl⟩
        · rcases along later short with ⟨imageLater, repliesLater⟩
          have reply := Reply.restamped_congr (validLone.known inOrder) agree
          simp only [own, if_true, Process.after, afterCalls, Process.replies,
            replies, List.map_cons]
          refine ⟨imageLater, ?_⟩
          rw [reply, ← answered, ← repliesLater]
          rfl
      · -- only the count moves on
        have different : member ≠ called := Ne.symm same
        have notBefore := issued_le_perform sound validCall
        have imageAfter := image_perform_of_ne different image call
        obtain ⟨rename', increasingLast, agree, along⟩ :=
          inductionHypothesis soundAfter reachable increasing imageAfter
            (fun stamp used => (fresh stamp used).trans_le notBefore)
            validRest
        refine ⟨rename', increasingLast, agree, ?_⟩
        intro earlier initial
        rcases List.prefix_cons_iff.1 initial with rfl | ⟨later, rfl, short⟩
        · exact ⟨⟨image.habitat.restamp reachable.inOrder agree, image.rest⟩,
            rfl⟩
        · simp only [own, if_neg same, Process.after, Process.replies]
          exact along later short

/-- Simulations of one process do not disturb each other: whatever calls are
made of the others, each of them is at any time what it would be if it were
the only one and the stamps began at zero, and has answered the same, all but
for the stamps. These are renamed in one way throughout, and keep their order.
The dice keep a record of their rolls, so that dice that are the same have
rolled the same. -/
theorem simulations_undisturbed
    (engines : (member : ι) → Engine (Recorded (τ member)))
    (made : ∀ member, ∃ config seed dice issued runId,
      make config seed dice issued runId = .ok (engines member))
    (issued : Nat) {calls : List (ι × Call)}
    (valid : Process.Valid ⟨engines, issued⟩ calls) (member : ι) :
    let lone : Engine (Recorded (τ member)) :=
      { engines member with issued := 0 }
    ∃ rename, StrictMono rename ∧
      ∀ earlier, earlier <+: calls →
        Image (.restamping rename) (lone.afterCalls (own member earlier))
            ((Process.after ⟨engines, issued⟩ earlier).seen member) ∧
          Process.replies ⟨engines, issued⟩ member earlier =
            (lone.replies (own member earlier)).map
              (Reply.restamped rename) := by
  have reachable : ∀ member issued,
      Reachable { engines member with issued := issued } := by
    intro member issued
    obtain ⟨config, seed, dice, _, runId, made⟩ := made member
    exact .made (make_issued made issued)
  have image : Image (.restamping id) { engines member with issued := 0 }
      (Process.seen ⟨engines, issued⟩ member) :=
    ⟨.recount _ issued, rfl⟩
  obtain ⟨rename, increasing, -, along⟩ :=
    exists_rename (fun member => reachable member issued) (reachable member 0)
      strictMono_id image (fun _ below => absurd below (Nat.not_lt_zero _))
      valid
  exact ⟨rename, increasing, along⟩

/-- Two duels of the same kind that are played by turns. -/
def duels : List (Bool × Call) :=
  let fighter := Call.place ⟨0, 0⟩ [.gene .attack] 50 .midpoint
  let victim := Call.place ⟨1, 0⟩ [.gene .nop] 10 .midpoint
  [(true, fighter), (false, fighter), (false, victim), (true, victim),
    (true, .advance), (false, .advance), (true, victim)]

/-- The first duel when the second is played beside it, and alone. -/
theorem handles_duels :
    ∃ (engine : Engine (Recorded Script)) (rename : Nat → Nat),
      let process : Process fun _ : Bool => Recorded Script :=
        ⟨fun _ => engine, 7⟩
      let lone : Engine (Recorded Script) := { engine with issued := 0 }
      ((process.after duels).seen true).store.handles =
          [⟨0, 7⟩, ⟨1, 11⟩] ∧
        (lone.afterCalls (own true duels)).store.handles =
          [⟨0, 0⟩, ⟨1, 2⟩] ∧
        StrictMono rename ∧
        Image (.restamping rename) (lone.afterCalls (own true duels))
          ((process.after duels).seen true) := by
  have figures :
      ((make { twoTiles with initialPopulation := 0 } none
          (⟨⟨#[0], 0⟩, []⟩ : Recorded Script) 0 "").toOption.map
        fun engine =>
          let process : Process fun _ : Bool => Recorded Script :=
            ⟨fun _ => engine, 7⟩
          (decide (process.Valid duels),
            ((process.after duels).seen true).store.handles,
            ({ engine with issued := 0 }.afterCalls
              (own true duels)).store.handles)) =
        some (true, [⟨0, 7⟩, ⟨1, 11⟩], [⟨0, 0⟩, ⟨1, 2⟩]) := by
    decide +kernel
  obtain ⟨engine, made⟩ :=
    exists_make_unseeded
      (show ({ twoTiles with initialPopulation := 0 } : Config).validate =
        .ok () from rfl) (⟨⟨#[0], 0⟩, []⟩ : Recorded Script) 0 ""
  rw [made] at figures
  rcases Prod.mk.inj (Option.some.inj figures) with ⟨valid, told⟩
  rcases Prod.mk.inj told with ⟨together, alone⟩
  obtain ⟨rename, increasing, along⟩ :=
    simulations_undisturbed (fun _ => engine)
      (fun _ => ⟨_, _, _, _, _, made⟩) 7 (of_decide_eq_true valid) true
  exact ⟨engine, rename, together, alone, increasing,
    (along duels (List.prefix_refl duels)).1⟩

end Courses

end Engine

end Vivarium
