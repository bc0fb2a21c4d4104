import Vivarium.Config
import Vivarium.Journal
import Vivarium.Text.Integer
import Vivarium.Text.Quoted

/-!
# Command-line options

How a list of arguments is read as options. An argument is first sorted on its
own: as an option, as a value, or as an option that does not exist. Then the
options take their values from left to right. Options may be shortened as long
as they stay unambiguous, and one-letter options may be written together.
-/

namespace Vivarium

inductive Flag where
  | help
  | width
  | height
  | population
  | rounds
  | seed
  | statsInterval
  | logLevel
  | quiet
deriving DecidableEq, Inhabited

namespace Flag

/-- The spellings of all options, in the order in which they are listed. -/
def spellings : List (String × Flag) :=
  [("-h", help), ("--help", help), ("--width", width), ("--height", height),
    ("--population", population), ("-p", population), ("--rounds", rounds),
    ("-r", rounds), ("--seed", seed), ("--stats-interval", statsInterval),
    ("--log-level", logLevel), ("--quiet", quiet), ("-q", quiet)]

def ofSpelling? (spelling : String) : Option Flag :=
  (spellings.find? (·.1 == spelling)).map (·.2)

def title (flag : Flag) : String :=
  "/".intercalate ((spellings.filter (·.2 == flag)).map (·.1))

def takesValue : Flag → Bool
  | help | quiet => false
  | _ => true

end Flag

inductive UsageFault where
  | ambiguous (argument : String) (candidates : List String)
  | valueMissing (flag : Flag)
  | valueUnwanted (flag : Flag) (value : String)
  | notInteger (flag : Flag) (value : String)
  | unrecognized (arguments : List String)
deriving DecidableEq

namespace UsageFault

def message : UsageFault → String
  | ambiguous argument candidates =>
    let candidates := ", ".intercalate candidates
    s!"ambiguous option: {argument} could match {candidates}"
  | valueMissing flag => s!"argument {flag.title}: expected one argument"
  | valueUnwanted flag value =>
    s!"argument {flag.title}: ignored explicit argument {Text.quoted value}"
  | notInteger flag value =>
    s!"argument {flag.title}: invalid int value: {Text.quoted value}"
  | unrecognized arguments =>
    let arguments := " ".intercalate arguments
    s!"unrecognized arguments: {arguments}"

end UsageFault

inductive Argument where
  | option (flag : Flag) (spelling : String) (attached : Option (List Char))
  /-- It looks like an option, but there is none of that name. -/
  | unknown (text : String)
  | plain (text : String)
  /-- The mark `--`, after which all arguments are values. -/
  | separator
deriving DecidableEq

namespace Argument

/-- The two parts of a text around its first equals sign. -/
def splitAssignment (text : List Char) : Option (String × List Char) :=
  match text.dropWhile (· != '=') with
  | [] => none
  | _ :: value => some (String.ofList (text.takeWhile (· != '=')), value)

/-- Whether a text is a minus sign and a decimal number, with a point or
without; a line break may follow. -/
def isNegativeNumber (text : List Char) : Bool :=
  match text with
  | '-' :: rest =>
    let body := if rest.getLast? = some '\n' then rest.dropLast else rest
    let isDigit (char : Char) : Bool := (Text.digitValue? char).isSome
    match body.dropWhile isDigit with
    | [] => !body.isEmpty
    | '.' :: places => !places.isEmpty && places.all isDigit
    | _ => false
  | _ => false

/-- The options that an argument may stand for which is not spelled out. A
long option may be shortened, and a one-letter option may have its value
attached. -/
def candidates (text : String) : List Argument :=
  let startsWith (spelling opening : String) : Bool :=
    opening.toList.isPrefixOf spelling.toList
  match text.toList with
  | '-' :: '-' :: _ =>
    let (opening, attached) :=
      match splitAssignment text.toList with
      | some (opening, attached) => (opening, some attached)
      | none => (text, none)
    Flag.spellings.filterMap fun (spelling, flag) =>
      if startsWith spelling opening then
        some (.option flag spelling attached)
      else
        none
  | '-' :: letter :: rest =>
    Flag.spellings.filterMap fun (spelling, flag) =>
      if spelling == String.ofList ['-', letter] then
        some (.option flag spelling (some rest))
      else if startsWith spelling text then
        some (.option flag spelling none)
      else
        none
  | _ => []

def spelling? : Argument → Option String
  | option _ spelling _ => some spelling
  | _ => none

/-- Sorts an argument that starts with a minus sign, has more than one
character and is no spelling of an option. -/
def sortUnspelled (text : String) : Except UsageFault Argument :=
  let chars := text.toList
  let assigned := do
    let (spelling, attached) ← splitAssignment chars
    let flag ← Flag.ofSpelling? spelling
    return Argument.option flag spelling (some attached)
  match assigned with
  | some argument => .ok argument
  | none =>
    match candidates text with
    | [argument] => .ok argument
    | [] =>
      if isNegativeNumber chars || chars.contains ' ' then .ok (.plain text)
      else .ok (.unknown text)
    | several =>
      .error (.ambiguous text (several.filterMap spelling?))

def sort (text : String) : Except UsageFault Argument :=
  match text.toList with
  | '-' :: _ :: _ =>
    match Flag.ofSpelling? text with
    | some flag => .ok (.option flag text none)
    | none => sortUnspelled text
  | _ => .ok (.plain text)

def sortAll : List String → Except UsageFault (List Argument)
  | [] => .ok []
  | text :: rest =>
    if text == "--" then
      .ok (.separator :: rest.map .plain)
    else do
      let argument ← sort text
      let following ← sortAll rest
      return argument :: following

end Argument

/-- The number that an option is given. An attached `--` is dropped like the
mark that it looks like, which leaves the option blank. -/
inductive Amount where
  | number (value : Int)
  | blank
deriving DecidableEq

namespace Amount

def ofText? (text : String) : Option Amount :=
  if text == "--" then some blank
  else (Text.integer? text).map number

def value : Amount → Except Fault Int
  | number value => .ok value
  | blank => .error .blankNumber

end Amount

structure Options where
  help : Bool
  width : Amount
  height : Amount
  population : Amount
  rounds : Option Amount
  seed : Option Amount
  statsInterval : Amount
  /-- The level of the journal; an empty name is a blank. -/
  logLevel : Option String
  quiet : Bool
deriving DecidableEq

namespace Options

def standard : Options where
  help := false
  width := .number Config.standard.width
  height := .number Config.standard.height
  population := .number Config.standard.initialPopulation
  rounds := none
  seed := none
  statsInterval := .number 100
  logLevel := none
  quiet := false

instance : Inhabited Options := ⟨standard⟩

def apply (options : Options) (flag : Flag) (value : String) :
    Except UsageFault Options :=
  let amount : Except UsageFault Amount :=
    match Amount.ofText? value with
    | some amount => .ok amount
    | none => .error (.notInteger flag value)
  match flag with
  | .help => .ok { options with help := true }
  | .quiet => .ok { options with quiet := true }
  | .logLevel =>
    .ok { options with logLevel := some (if value == "--" then "" else value) }
  | .width => do return { options with width := ← amount }
  | .height => do return { options with height := ← amount }
  | .population => do return { options with population := ← amount }
  | .rounds => do return { options with rounds := some (← amount) }
  | .seed => do return { options with seed := some (← amount) }
  | .statsInterval => do return { options with statsInterval := ← amount }

/-- How the options end that are written together in one argument. -/
inductive Ending where
  | bare (flag : Flag)
  | valued (flag : Flag) (value : String)
deriving DecidableEq

/-- The options that an option stands for together with the characters that
are attached to it. They are its value if it takes one. If it takes none and
is a single letter, the first of them is the next option. -/
def uncluster (flag : Flag) (isLong : Bool) :
    (attached : List Char) → Except UsageFault (List Flag × Ending)
  | [] =>
    if flag.takesValue then .ok ([], .valued flag "")
    else .error (.valueUnwanted flag "")
  | letter :: rest =>
    if flag.takesValue then
      .ok ([], .valued flag (String.ofList (letter :: rest)))
    else
      let next? :=
        if isLong then none
        else Flag.ofSpelling? (String.ofList ['-', letter])
      match next? with
      | none =>
        .error (.valueUnwanted flag (String.ofList (letter :: rest)))
      | some next =>
        if rest.isEmpty then .ok ([flag], .bare next)
        else do
          let (flags, ending) ← uncluster next false rest
          return (flag :: flags, ending)

def spread (flag : Flag) (spelling : String) :
    (attached : Option (List Char)) →
      Except UsageFault (List Flag × Ending)
  | none => .ok ([], .bare flag)
  | some attached => uncluster flag (spelling.startsWith "--") attached

def applyAll (options : Options) (flags : List Flag) :
    Except UsageFault Options :=
  flags.foldlM (fun options flag => options.apply flag "") options

/-- Gives the last of some options its value, from the arguments that follow
if it has none yet. -/
def supply : Ending → List Argument →
    Except UsageFault (Ending × List Argument)
  | .bare flag, rest =>
    if flag.takesValue then
      match rest with
      | .plain text :: rest => .ok (.valued flag text, rest)
      | _ => .error (.valueMissing flag)
    else
      .ok (.bare flag, rest)
  | ending, rest => .ok (ending, rest)

private theorem length_supply
    {ending supplied : Ending} {rest left : List Argument}
    (success : supply ending rest = .ok (supplied, left)) :
    left.length ≤ rest.length := by
  unfold supply at success
  split at success
  · split at success
    · split at success
      · simp only [Except.ok.injEq, Prod.mk.injEq] at success
        obtain ⟨_, rfl⟩ := success
        simp
      · contradiction
    · simp only [Except.ok.injEq, Prod.mk.injEq] at success
      obtain ⟨_, rfl⟩ := success
      exact Nat.le_refl _
  · simp only [Except.ok.injEq, Prod.mk.injEq] at success
    obtain ⟨_, rfl⟩ := success
    exact Nat.le_refl _

def applyEnding (options : Options) : Ending → Except UsageFault Options
  | .bare flag => options.apply flag ""
  | .valued flag value => options.apply flag value

/-- Applies sorted arguments from left to right, and answers also those that
belong to no option. Nothing is read after a request for help. -/
def readArguments (options : Options) (strays : List String)
    (arguments : List Argument) :
    Except UsageFault (Options × List String) :=
  match arguments with
  | [] => .ok (options, strays)
  | .plain text :: rest => readArguments options (strays ++ [text]) rest
  | .unknown text :: rest => readArguments options (strays ++ [text]) rest
  | .separator :: rest => readArguments options (strays ++ ["--"]) rest
  | .option flag spelling attached :: rest => do
    let (flags, ending) ← spread flag spelling attached
    match supplied : supply ending rest with
    | .error fault => .error fault
    | .ok (ending, left) =>
      let options ← applyAll options flags
      if options.help then
        return (options, [])
      let options ← applyEnding options ending
      if options.help then
        return (options, [])
      have _ := length_supply supplied
      readArguments options strays left
termination_by arguments.length

def parse (arguments : List String) : Except UsageFault Options := do
  let sorted ← Argument.sortAll arguments
  let (options, strays) ← readArguments standard [] sorted
  if strays.isEmpty then
    return options
  else
    .error (.unrecognized strays)

def level (options : Options) (environment : Option String) :
    Except Fault Level :=
  Level.resolve (if options.quiet then some "WARNING" else options.logLevel)
    environment

def accept (fault? : Option ConfigFault) : Except Fault Unit :=
  match fault? with
  | some fault => .error (Fault.config fault).raised
  | none => .ok ()

/-- The extent of the grid that is asked for. A width that is too small is
refused also when the height is blank. -/
def extent (options : Options) : Except Fault Extent := do
  let width ← options.width.value
  match options.height with
  | .number height =>
    accept (Config.extentFault? ⟨width, height⟩)
    return ⟨width, height⟩
  | .blank =>
    if width < 1 then .error (Fault.config (.blankHeight width)).raised
    else .error .blankNumber

def seedValue (options : Options) : Except Fault (Option Int) :=
  match options.seed with
  | none => .ok none
  | some (.number seed) => .ok (some seed)
  | some .blank => .error .blankSeed

/-- The parameters of the run that is asked for. They are checked one after
the other, so the first that is refused or blank is the one that counts; the
seed comes last. -/
def config (options : Options) : Except Fault Config := do
  let extent ← options.extent
  let population ← options.population.value
  accept (Config.populationFault? extent population)
  let rounds ← options.rounds.mapM Amount.value
  accept (Config.roundsFault? rounds)
  let interval ←
    if options.quiet then pure 0 else options.statsInterval.value
  accept (Config.intervalFault? interval)
  let seed ← options.seedValue
  return {
    width := extent.width
    height := extent.height
    initialPopulation := population
    startingFood := defaultFood
    seed := seed
    maxRounds := rounds
    statsInterval := interval }

def usage : String :=
  "usage: genegame-headless [-h] [--width WIDTH] [--height HEIGHT] " ++
    "[--population POPULATION] [--rounds ROUNDS] [--seed SEED] " ++
    "[--stats-interval STATS_INTERVAL] [--log-level LOG_LEVEL] [--quiet]"

def refusal (fault : UsageFault) : String :=
  s!"genegame-headless: error: {fault.message}"

end Options

end Vivarium
