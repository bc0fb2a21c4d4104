import Vivarium.World

/-!
# Parameters of a run

What a host chooses for a simulation, and which choices are refused.
-/

namespace Vivarium

structure Config where
  width : Int
  height : Int
  initialPopulation : Int
  startingFood : Int
  seed : Option Int
  /-- The number of rounds after which a run stops; without one it goes on
  until all creatures are dead. -/
  maxRounds : Option Int
  /-- The statistics are noted every so many rounds; zero stands for never. -/
  statsInterval : Int
deriving DecidableEq

namespace Config

/-- The parameters of a run for which nothing else is asked. -/
def standard : Config where
  width := 800
  height := 600
  initialPopulation := 500
  startingFood := defaultFood
  seed := none
  maxRounds := none
  statsInterval := 0

instance : Inhabited Config := ⟨standard⟩

def extent (config : Config) : Extent := ⟨config.width, config.height⟩

def extentFault? (extent : Extent) : Option ConfigFault :=
  if extent.width < 1 ∨ extent.height < 1 then
    some (.extent extent.width extent.height)
  else
    none

def populationFault? (extent : Extent) (population : Int) :
    Option ConfigFault :=
  if population < 0 then some (.negativePopulation population)
  else if extent.area < population then
    some (.overcrowded population extent.area)
  else none

def foodFault? (food : Int) : Option ConfigFault :=
  if food < 0 then some (.negativeFood food) else none

def roundsFault? (rounds : Option Int) : Option ConfigFault :=
  (rounds.filter (· < 0)).map .negativeRounds

def intervalFault? (interval : Int) : Option ConfigFault :=
  if interval < 0 then some (.negativeInterval interval) else none

/-- The first thing that is wrong with the parameters, if anything is. -/
def fault? (config : Config) : Option ConfigFault :=
  (extentFault? config.extent).or <|
    (populationFault? config.extent config.initialPopulation).or <|
    (foodFault? config.startingFood).or <|
    (roundsFault? config.maxRounds).or <|
    intervalFault? config.statsInterval

def validate (config : Config) : Except Fault Unit :=
  match config.fault? with
  | some fault => .error (Fault.config fault).raised
  | none => .ok ()

theorem extentFault?_eq_none_iff {extent : Extent} :
    extentFault? extent = none ↔ 1 ≤ extent.width ∧ 1 ≤ extent.height := by
  unfold extentFault?
  split <;> simp <;> omega

theorem populationFault?_eq_none_iff {extent : Extent} {population : Int} :
    populationFault? extent population = none ↔
      0 ≤ population ∧ population ≤ extent.area := by
  unfold populationFault?
  split
  · simp
    omega
  · split <;> simp <;> omega

theorem foodFault?_eq_none_iff {food : Int} :
    foodFault? food = none ↔ 0 ≤ food := by
  unfold foodFault?
  split <;> simp <;> omega

theorem roundsFault?_eq_none_iff {rounds : Option Int} :
    roundsFault? rounds = none ↔ ∀ bound ∈ rounds, 0 ≤ bound := by
  cases rounds <;> simp [roundsFault?, Option.filter]

theorem intervalFault?_eq_none_iff {interval : Int} :
    intervalFault? interval = none ↔ 0 ≤ interval := by
  unfold intervalFault?
  split <;> simp <;> omega

theorem validate_eq_ok_iff {config : Config} :
    config.validate = .ok () ↔
      (1 ≤ config.width ∧ 1 ≤ config.height) ∧
      (0 ≤ config.initialPopulation ∧
        config.initialPopulation ≤ config.extent.area) ∧
      0 ≤ config.startingFood ∧
      (∀ bound ∈ config.maxRounds, 0 ≤ bound) ∧
      0 ≤ config.statsInterval := by
  have accepted : config.validate = .ok () ↔ config.fault? = none := by
    unfold validate
    cases config.fault? <;> simp
  simp only [accepted, fault?, Option.or_eq_none_iff,
    extentFault?_eq_none_iff,
    populationFault?_eq_none_iff, foodFault?_eq_none_iff,
    roundsFault?_eq_none_iff, intervalFault?_eq_none_iff, extent]

end Config

end Vivarium
