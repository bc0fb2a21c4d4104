import Vivarium.Fault.Message
import Vivarium.Text.Capital

/-!
# The journal

What a simulation notes down while it runs, how urgent each notice is, and
which notices a reader asks for.
-/

namespace Vivarium

/-- How urgent a notice is, or how urgent it has to be to be shown. -/
inductive Level where
  | notSet
  | debug
  | info
  | warning
  | error
  | critical
deriving DecidableEq, Inhabited

namespace Level

/-- The levels from the least urgent up. -/
def all : List Level := [notSet, debug, info, warning, error, critical]

def value : Level → Nat
  | notSet => 0
  | debug => 10
  | info => 20
  | warning => 30
  | error => 40
  | critical => 50

def name : Level → String
  | notSet => "NOTSET"
  | debug => "DEBUG"
  | info => "INFO"
  | warning => "WARNING"
  | error => "ERROR"
  | critical => "CRITICAL"

/-- The level with a given name; two of them have a second name. -/
def ofName? (name : String) : Option Level :=
  if name == "WARN" then some warning
  else if name == "FATAL" then some critical
  else all.find? (·.name == name)

def shows (threshold level : Level) : Bool :=
  threshold.value ≤ level.value

/-- The level that a host asks for, in letters of either case: its own choice
before that of the environment. An empty choice stands for the usual level. -/
def resolve (choice environment : Option String) : Except Fault Level :=
  let asked := (choice <|> environment).getD ""
  let name := Text.capitalize (if asked.isEmpty then "INFO" else asked)
  match ofName? name with
  | some level => .ok level
  | none => .error (.unknownLevel name)

end Level

inductive Notice where
  | journalOpened
  | engineStarted (runId : String) (width height : Int) (seed : Option Int)
  | seeded (count width height : Nat)
  | roundBegun (round active : Nat)
  | extinct (round : Nat)
  | statistics (line : String)
  | starved (creature : Handle) (position : Position)
  | killed (attacker victim : Handle) (position : Position)
  | reproduced (parent child : Handle) (position : Position)
  /-- An attack on a tile whose occupant is not in the store. -/
  | unresolvedAttack (attacker occupant : Handle)
  /-- A slot was not released, since the handle does not hold it. -/
  | staleRelease (handle : Handle)
  | runBegun (width height population : Int) (seed : Option Int)
  | runCompleted (rounds : Nat) (elapsed : String)
  | configRefused (fault : ConfigFault)
deriving DecidableEq

namespace Notice

def level : Notice → Level
  | journalOpened => .debug
  | engineStarted .. => .info
  | seeded .. => .info
  | roundBegun .. => .debug
  | extinct .. => .info
  | statistics .. => .info
  | starved .. => .debug
  | killed .. => .debug
  | reproduced .. => .debug
  | unresolvedAttack .. => .debug
  | staleRelease .. => .debug
  | runBegun .. => .info
  | runCompleted .. => .info
  | configRefused .. => .error

/-- The part of the program that a notice is signed with. -/
def signature : Notice → String
  | journalOpened => "genegame"
  | engineStarted .. => "genegame.simulation.engine"
  | seeded .. => "genegame.simulation.population"
  | roundBegun .. => "genegame.simulation.engine"
  | extinct .. => "genegame.simulation.engine"
  | statistics .. => "genegame.simulation.engine"
  | starved .. => "genegame.entities.creature"
  | killed .. => "genegame.genetics.interpreter"
  | reproduced .. => "genegame.genetics.interpreter"
  | unresolvedAttack .. => "genegame.genetics.interpreter"
  | staleRelease .. => "genegame.entity_store"
  | runBegun .. => "tools.run_headless"
  | runCompleted .. => "tools.run_headless"
  | configRefused .. => "tools.run_headless"

def optionText (value : Option Int) : Except Fault String :=
  match value with
  | some value => Figure.text value
  | none => .ok "None"

def positionText (position : Position) : Except Fault String := do
  let x ← Figure.text position.x
  let y ← Figure.text position.y
  return s!"({x}, {y})"

def message : Notice → Except Fault String
  | journalOpened => .ok "Logging configured"
  | engineStarted runId width height seed => do
    let seed ← optionText seed
    return s!"SimulationEngine initialized with run_id={runId} " ++
      s!"world={width}x{height} seed={seed}"
  | seeded count width height =>
    .ok s!"Seeded {count} creatures on a {width}x{height} world"
  | roundBegun round active =>
    .ok s!"Round {round}, number of active creatures: {active}"
  | extinct round => .ok s!"Every creature died at round {round}"
  | statistics line => .ok line
  | starved creature position => do
    let creature ← creature.text
    let position ← positionText position
    return s!"{creature} starved at {position}"
  | killed attacker victim position => do
    let attacker ← attacker.text
    let victim ← victim.text
    let position ← positionText position
    return s!"{attacker} killed {victim} at {position}"
  | reproduced parent child position => do
    let parent ← parent.text
    let child ← child.text
    let position ← positionText position
    return s!"{parent} reproduced into {child} at {position}"
  | unresolvedAttack attacker occupant => do
    let attacker ← attacker.text
    let occupant ← occupant.text
    return s!"{attacker} attacked unresolved occupant {occupant}"
  | staleRelease handle => do
    let handle ← handle.text
    return s!"Rejected stale deallocation of {handle}"
  | runBegun width height population seed => do
    let width ← Figure.text width
    let height ← Figure.text height
    let population ← Figure.text population
    let seed ← optionText seed
    return s!"Running {width}x{height} world with {population} creatures " ++
      s!"(seed={seed})"
  | runCompleted rounds elapsed =>
    .ok s!"Completed {rounds} rounds in {elapsed}"
  | configRefused fault => do
    let fault ← fault.message
    return s!"Invalid configuration: {fault}"

theorem exists_message_engineStarted_iff {runId : String}
    {width height : Int} {seed : Option Int} :
    (∃ told, message (.engineStarted runId width height seed) = .ok told) ↔
      ∀ value ∈ seed, Figure.Short value := by
  cases seed with
  | none => exact ⟨fun _ => by simp, fun _ => ⟨_, rfl⟩⟩
  | some value =>
    by_cases short : Figure.Short value
    · refine ⟨fun _ => by simpa using short, fun _ => ?_⟩
      rw [message, optionText, Figure.text_of_short short]
      exact ⟨_, rfl⟩
    · refine ⟨?_, fun writable => absurd (writable value rfl) short⟩
      rintro ⟨told, message_eq⟩
      rw [message, optionText, Figure.text_of_long short] at message_eq
      cases message_eq

def line (notice : Notice) : Except Fault String := do
  let message ← notice.message
  return s!"{notice.level.name} [{notice.signature}] {message}"

end Notice

end Vivarium
