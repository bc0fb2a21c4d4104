import Vivarium.Proofs.Visits

/-!
# Pedigrees

A creature is born under a stamp that nobody had before, and its program stays
the same from then on. So there is one assignment of programs to stamps for all
creatures that there are, and whatever happens in a turn only extends it.
-/

namespace Vivarium

/-! ## Programs by stamps -/

/-- Mutation does not lead out of a kind of programs. -/
def Codon.Closed (kind : List Codon → Prop) : Prop :=
  ∀ {parent child}, Inherits parent child → kind parent → kind child

theorem Codon.Inherits.length_le {parent child : List Codon}
    (inherits : Inherits parent child) : parent.length ≤ child.length := by
  cases inherits with
  | copied =>
      exact Nat.le_refl _
  | overwritten index inside held =>
      rw [List.length_set]
  | appended room held =>
      rw [List.length_append]
      exact Nat.le_add_right _ _

theorem Codon.closed_sized (least : Nat) :
    Closed fun program =>
      least ≤ program.length ∧ program.length ≤ Gene.maxProgram := by
  intro parent child inherits sized
  refine ⟨Nat.le_trans sized.1 inherits.length_le, ?_⟩
  cases inherits with
  | copied =>
      exact sized.2
  | overwritten index inside held =>
      rw [List.length_set]
      exact sized.2
  | appended room held =>
      rw [List.length_append]
      exact room

/-- A creature has the program that is assigned to its stamp, and the diet that
the program stands for. -/
structure Creature.Bears (assigned : Nat → List Codon)
    (kind : List Codon → Prop) (issued : Nat) (creature : Creature) :
    Prop where
  stamped : creature.handle.generation < issued
  program : creature.program = assigned creature.handle.generation
  kind : kind creature.program
  diet : creature.diet = Diet.classify creature.program

structure Creature.Ages (creature older : Creature) : Prop where
  handle : older.handle = creature.handle
  program : older.program = creature.program
  diet : older.diet = creature.diet

namespace Creature

variable {assigned later : Nat → List Codon} {kind : List Codon → Prop}
  {issued issuedLater : Nat} {creature older : Creature}

theorem Ages.refl (creature : Creature) : creature.Ages creature :=
  ⟨rfl, rfl, rfl⟩

theorem Ages.trans {oldest : Creature} (first : creature.Ages older)
    (second : older.Ages oldest) : creature.Ages oldest where
  handle := second.handle.trans first.handle
  program := second.program.trans first.program
  diet := second.diet.trans first.diet

theorem Ages.bears (ages : creature.Ages older)
    (bears : creature.Bears assigned kind issued) :
    older.Bears assigned kind issued where
  stamped := by
    rw [ages.handle]
    exact bears.stamped
  program := by
    rw [ages.handle, ages.program]
    exact bears.program
  kind := by
    rw [ages.program]
    exact bears.kind
  diet := by
    rw [ages.program, ages.diet]
    exact bears.diet

theorem Bears.extend (bears : creature.Bears assigned kind issued)
    (same : ∀ stamp < issued, later stamp = assigned stamp)
    (notBefore : issued ≤ issuedLater) :
    creature.Bears later kind issuedLater where
  stamped := Nat.lt_of_lt_of_le bears.stamped notBefore
  program := bears.program.trans (same _ bears.stamped).symm
  kind := bears.kind
  diet := bears.diet

end Creature

/-- Who there is, each in its slot, and how many stamps have been used. -/
structure Muster where
  residents : Nat → Option Creature
  issued : Nat

structure Sight where
  /-- The stored creatures, and the one whose turn it is. -/
  living : List Creature
  /-- Each creature that is just born, behind its parent. -/
  births : List (Creature × Creature)

def Muster.Bears (assigned : Nat → List Codon) (kind : List Codon → Prop)
    (muster : Muster) : Prop :=
  ∀ {index creature}, muster.residents index = some creature →
    creature.Bears assigned kind muster.issued

structure Sight.Accords (assigned : Nat → List Codon)
    (kind : List Codon → Prop) (issued : Nat) (sight : Sight) : Prop where
  living : ∀ creature ∈ sight.living, creature.Bears assigned kind issued
  births : ∀ birth ∈ sight.births,
    birth.1.Bears assigned kind issued ∧
      birth.2.Bears assigned kind issued ∧
        Codon.Inherits birth.1.program birth.2.program

theorem Sight.Accords.extend {assigned later : Nat → List Codon}
    {kind : List Codon → Prop} {issued issuedLater : Nat} {sight : Sight}
    (accords : sight.Accords assigned kind issued)
    (same : ∀ stamp < issued, later stamp = assigned stamp)
    (notBefore : issued ≤ issuedLater) :
    sight.Accords later kind issuedLater where
  living creature member :=
    (accords.living creature member).extend same notBefore
  births birth member := by
    obtain ⟨parent, child, inherits⟩ := accords.births birth member
    exact ⟨parent.extend same notBefore, child.extend same notBefore,
      inherits⟩

/-! ## From one muster to the next -/

namespace Muster

variable {kind : List Codon → Prop} {before middle after : Muster}
  {sights later : List Sight} {newcomer : Option Creature}

/-- From one muster to a later one, with what is seen meanwhile: every
assignment for the first can be extended to one for all. -/
structure Leads (kind : List Codon → Prop) (before : Muster)
    (sights : List Sight) (after : Muster) : Prop where
  notBefore : before.issued ≤ after.issued
  extend : ∀ {assigned}, before.Bears assigned kind →
    ∃ later : Nat → List Codon,
      (∀ stamp < before.issued, later stamp = assigned stamp) ∧
        after.Bears later kind ∧
        ∀ sight ∈ sights, sight.Accords later kind after.issued

theorem Leads.refl (muster : Muster) : Leads kind muster [] muster where
  notBefore := Nat.le_refl _
  extend bears := ⟨_, fun _ _ => rfl, bears, by simp⟩

theorem Leads.trans (first : Leads kind before sights middle)
    (second : Leads kind middle later after) :
    Leads kind before (sights ++ later) after where
  notBefore := Nat.le_trans first.notBefore second.notBefore
  extend := by
    intro assigned bears
    obtain ⟨early, sameEarly, bearsMiddle, seenEarly⟩ := first.extend bears
    obtain ⟨late, sameLate, bearsAfter, seenLate⟩ :=
      second.extend bearsMiddle
    refine ⟨late, ?_, bearsAfter, ?_⟩
    · intro stamp used
      rw [sameLate stamp (Nat.lt_of_lt_of_le used first.notBefore),
        sameEarly stamp used]
    · intro sight member
      rcases List.mem_append.1 member with early | late
      · exact (seenEarly sight early).extend sameLate second.notBefore
      · exact seenLate sight late

theorem composable_leads (kind : List Codon → Prop) :
    Act.Composable (Leads kind) where
  refl := Leads.refl
  trans := Leads.trans

/-- All have been there before but for one at most, who comes under the next
stamp. Some may have gone. -/
structure Passes (newcomer : Option Creature) (before after : Muster) :
    Prop where
  notBefore : before.issued ≤ after.issued
  stamp : ∀ creature ∈ newcomer,
    creature.handle.generation = before.issued ∧
      before.issued < after.issued
  resident : ∀ {index creature}, after.residents index = some creature →
    (∃ young ∈ newcomer, young.Ages creature) ∨
      ∃ young, before.residents index = some young ∧ young.Ages creature

theorem Passes.refl (muster : Muster) : Passes none muster muster where
  notBefore := Nat.le_refl _
  stamp := nofun
  resident present := Or.inr ⟨_, present, .refl _⟩

theorem Passes.trans (first : Passes newcomer before middle)
    (second : Passes none middle after) : Passes newcomer before after where
  notBefore := Nat.le_trans first.notBefore second.notBefore
  stamp creature member := by
    obtain ⟨stamp, used⟩ := first.stamp creature member
    exact ⟨stamp, Nat.lt_of_lt_of_le used second.notBefore⟩
  resident := by
    intro index creature present
    rcases second.resident present with impossible | ⟨young, was, ages⟩
    · rcases impossible with ⟨_, impossible, -⟩
      cases impossible
    · rcases first.resident was with new | old
      · rcases new with ⟨youngest, member, grew⟩
        exact Or.inl ⟨youngest, member, grew.trans ages⟩
      · rcases old with ⟨youngest, member, grew⟩
        exact Or.inr ⟨youngest, member, grew.trans ages⟩

/-- Nobody comes, and at most one changes or goes. -/
theorem passes_update {index : Nat} {held : Option Creature}
    (ages : ∀ creature ∈ held, ∃ young,
      before.residents index = some young ∧ young.Ages creature) :
    Passes none before
      { before with
        residents := Function.update before.residents index held } where
  notBefore := Nat.le_refl _
  stamp := nofun
  resident := by
    intro other creature present
    dsimp only at present
    rw [Function.update_apply] at present
    split at present
    · next same =>
      subst same
      exact Or.inr (ages creature present)
    · exact Or.inr ⟨creature, present, .refl _⟩

theorem passes_join {index : Nat} {creature : Creature}
    (stamp : creature.handle.generation = before.issued) :
    Passes (some creature) before
      { residents := Function.update before.residents index (some creature)
        issued := before.issued + 1 } where
  notBefore := Nat.le_succ _
  stamp := by
    intro other same
    cases same
    exact ⟨stamp, Nat.lt_succ_self _⟩
  resident := by
    intro other resident present
    dsimp only at present
    rw [Function.update_apply] at present
    split at present
    · exact Or.inl ⟨creature, rfl, Option.some.inj present ▸ .refl _⟩
    · exact Or.inr ⟨resident, present, .refl _⟩

/-- The newcomer's program is assigned to its stamp, which is free. -/
theorem Passes.exists_assigned (passes : Passes newcomer before after)
    {assigned : Nat → List Codon} (bears : before.Bears assigned kind)
    (fit : ∀ creature ∈ newcomer,
      kind creature.program ∧
        creature.diet = Diet.classify creature.program) :
    ∃ later : Nat → List Codon,
      (∀ stamp < before.issued, later stamp = assigned stamp) ∧
        after.Bears later kind := by
  have extended : ∀ later : Nat → List Codon,
      (∀ stamp < before.issued, later stamp = assigned stamp) →
      (∀ creature ∈ newcomer,
        later before.issued = creature.program) →
      after.Bears later kind := by
    intro later same new index creature present
    rcases passes.resident present with ⟨young, member, ages⟩ |
      ⟨young, was, ages⟩
    · obtain ⟨stamp, used⟩ := passes.stamp young member
      obtain ⟨kind, diet⟩ := fit young member
      refine ages.bears ⟨?_, ?_, kind, diet⟩
      · rw [stamp]
        exact used
      · rw [stamp, new young member]
    · exact ages.bears ((bears was).extend same passes.notBefore)
  cases newcomer with
  | none =>
      exact ⟨assigned, fun _ _ => rfl,
        extended assigned (fun _ _ => rfl) nofun⟩
  | some child =>
      refine ⟨Function.update assigned before.issued child.program, ?_,
        extended _ ?_ ?_⟩
      · intro stamp used
        exact Function.update_of_ne (Nat.ne_of_lt used) _ _
      · intro stamp used
        exact Function.update_of_ne (Nat.ne_of_lt used) _ _
      · intro creature same
        cases same
        exact Function.update_self _ _ _

/-- What is seen at the end of a step that brings one creature at most. -/
theorem Passes.leads (passes : Passes newcomer before after)
    (fit : ∀ {assigned}, before.Bears assigned kind →
      ∀ creature ∈ newcomer,
        kind creature.program ∧
          creature.diet = Diet.classify creature.program)
    {sight : Sight}
    (living : ∀ creature ∈ sight.living,
      ∃ index, after.residents index = some creature)
    (births : ∀ birth ∈ sight.births,
      birth.2 ∈ sight.living ∧
        (∃ index, before.residents index = some birth.1) ∧
        Codon.Inherits birth.1.program birth.2.program) :
    Leads kind before [sight] after where
  notBefore := passes.notBefore
  extend := by
    intro assigned bears
    obtain ⟨later, same, bearsAfter⟩ :=
      passes.exists_assigned bears (fit bears)
    have seen : ∀ creature ∈ sight.living,
        creature.Bears later kind after.issued := by
      intro creature member
      obtain ⟨index, present⟩ := living creature member
      exact bearsAfter present
    refine ⟨later, same, bearsAfter, ?_⟩
    intro other member
    obtain rfl := List.mem_singleton.1 member
    refine ⟨seen, ?_⟩
    intro birth listed
    obtain ⟨child, ⟨index, parent⟩, inherits⟩ := births birth listed
    exact ⟨(bears parent).extend same passes.notBefore, seen _ child,
      inherits⟩

end Muster

end Vivarium
