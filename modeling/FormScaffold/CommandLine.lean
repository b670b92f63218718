import FormScaffold.Session.Create

/-!
# The command line

`formgen create` makes a form, and so does `formgen` alone; `formgen generate` generates a saved
one again.  Options are read from the left, and the first that asks for help or that cannot be used
decides.
-/

namespace FormScaffold.CommandLine

/-! ## Options -/

inductive Flag where
  | config | output | dryRun | yes | help | version
deriving DecidableEq, Repr

namespace Flag

def all : List Flag := [config, output, dryRun, yes, help, version]

def long : Flag → String
  | config => "config"
  | output => "output"
  | dryRun => "dry-run"
  | yes => "yes"
  | help => "help"
  | version => "version"

def short? : Flag → Option Char
  | config => some 'c'
  | output => some 'o'
  | dryRun => none
  | yes => some 'y'
  | help => some 'h'
  | version => some 'V'

/-- Whether a value belongs to the option. -/
def takesValue (flag : Flag) : Bool := flag = config || flag = output

end Flag

/-- The commands, with none for the program itself. -/
inductive Topic where
  | program | create | generate
deriving DecidableEq, Repr

/-- The options of a command. -/
def Topic.flags : Topic → List Flag
  | program => [.help, .version]
  | create => [.config, .output, .dryRun, .yes, .help]
  | generate => [.config, .output, .dryRun, .help]

/-- Why a command line cannot be used. -/
inductive UsageError where
  | unexpected (argument : String)
  | noValue (flag : Flag)
  | surplusValue (flag : Flag)
  | repeated (flag : Flag)
  | missing (flag : Flag)
deriving DecidableEq, Repr

def UsageError.message : UsageError → String
  | unexpected argument => "error: unexpected argument '" ++ argument ++ "' found"
  | noValue flag => "error: a value is required for '--" ++ flag.long ++ "' but none was supplied"
  | surplusValue flag => "error: unexpected value for '--" ++ flag.long ++ "' found"
  | repeated flag => "error: the argument '--" ++ flag.long ++ "' cannot be used multiple times"
  | missing flag => "error: the required argument '--" ++ flag.long ++ "' was not provided"

/-- What ends the reading of a command line early. -/
inductive Stop where
  | help (topic : Topic)
  | version
  | misuse (error : UsageError)
deriving DecidableEq, Repr

/-! ## Reading options -/

/-- The options that have been given, with their values. -/
abbrev Given := List (Flag × String)

/-- Takes an option with its value, which is empty for one that has none. -/
def take (topic : Topic) (given : Given) (flag : Flag) (value : String) : Except Stop Given :=
  if flag = .help then .error (.help topic)
  else if flag = .version then .error .version
  else if flag.takesValue && value = "" then .error (.misuse (.noValue flag))
  else if given.any fun (f, _) => f = flag then .error (.misuse (.repeated flag))
  else .ok (given ++ [(flag, value)])

/-- Whether an argument is an option, or the mark behind which there are none. -/
def isDashed (argument : String) : Bool := argument.startsWith "-" && argument ≠ "-"

/-- Takes the short options of one argument, and tells which one still needs its value. -/
def takeShort (topic : Topic) (argument : String) :
    Given → List Char → Except Stop (Given × Option Flag)
  | given, [] => .ok (given, none)
  | given, c :: cs =>
    match topic.flags.find? fun flag => flag.short? = some c with
    | none => .error (.misuse (.unexpected argument))
    | some flag =>
      if flag.takesValue then
        match cs with
        | [] => .ok (given, some flag)
        | '=' :: value => (take topic given flag (String.ofList value)).map (·, none)
        | value => (take topic given flag (String.ofList value)).map (·, none)
      else do
        let given ← take topic given flag ""
        takeShort topic argument given cs

/-- Takes a long option, and tells whether it still needs its value. -/
def takeLong (topic : Topic) (argument : String) (given : Given) (cs : List Char) :
    Except Stop (Given × Option Flag) := do
  let (name, value?) := match Text.cutFirst (· = '=') cs with
    | some (name, value) => (name, some (String.ofList value))
    | none => (cs, none)
  match topic.flags.find? fun flag => flag.long = String.ofList name with
  | none => .error (.misuse (.unexpected argument))
  | some flag =>
    match value? with
    | some value =>
      if flag.takesValue then return (← take topic given flag value, none)
      else .error (.misuse (.surplusValue flag))
    | none =>
      if flag.takesValue then return (given, some flag)
      else return (← take topic given flag "", none)

/-- Takes what one argument says. -/
def takeArgument (topic : Topic) (given : Given) (argument : String) :
    Except Stop (Given × Option Flag) :=
  match argument.toList with
  | '-' :: '-' :: cs => takeLong topic argument given cs
  | '-' :: c :: cs => takeShort topic argument given (c :: cs)
  | _ => .error (.misuse (.unexpected argument))

/-- Takes all arguments of a command.  An option may still wait for its value, which an argument
that is an option itself cannot be. -/
def takeAll (topic : Topic) : Given → (waiting : Option Flag) → List String → Except Stop Given
  | given, none, [] => .ok given
  | _, some flag, [] => .error (.misuse (.noValue flag))
  | given, some flag, argument :: arguments =>
    if isDashed argument then .error (.misuse (.noValue flag))
    else do
      let given ← take topic given flag argument
      takeAll topic given none arguments
  | given, none, argument :: arguments =>
    if argument = "--" then
      match arguments with
      | [] => .ok given
      | surplus :: _ => .error (.misuse (.unexpected surplus))
    else do
      let (given, waiting) ← takeArgument topic given argument
      takeAll topic given waiting arguments

/-! ## Commands -/

inductive Command where
  | create (options : CreateOptions)
  | generate (config : Path) (output : Option Path) (dryRun : Bool)
deriving DecidableEq, Repr

def pathOf? (given : Given) (flag : Flag) : Option Path := (given.lookup flag).map Path.ofString

def has (given : Given) (flag : Flag) : Bool := (given.lookup flag).isSome

def createCommand (arguments : List String) : Except Stop Command := do
  let given ← takeAll .create [] none arguments
  return .create {
    config := pathOf? given .config
    output := pathOf? given .output
    dryRun := has given .dryRun
    yes := has given .yes }

def generateCommand (arguments : List String) : Except Stop Command := do
  let given ← takeAll .generate [] none arguments
  match pathOf? given .config with
  | some config => return .generate config (pathOf? given .output) (has given .dryRun)
  | none => .error (.misuse (.missing .config))

/-- What is asked of the help command. -/
def helpStop : List String → Stop
  | [] | ["help"] => .help .program
  | ["create"] => .help .create
  | ["generate"] => .help .generate
  | "create" :: argument :: _ | "generate" :: argument :: _ | "help" :: argument :: _
  | argument :: _ => .misuse (.unexpected argument)

/-- The command that the arguments of the program denote. -/
def Command.ofArguments : List String → Except Stop Command
  | "create" :: arguments => createCommand arguments
  | "generate" :: arguments => generateCommand arguments
  | "help" :: arguments => .error (helpStop arguments)
  | arguments => do
    let _ ← takeAll .program [] none arguments
    return .create { config := none, output := none, dryRun := false, yes := false }

/-! ## Running -/

/-- The lines of help on a command. -/
def helpLines : Topic → List String
  | .program =>
    [ "CLI for generating validated React form components", "",
      "Usage: formgen [COMMAND]", "",
      "Commands:",
      "  create    Create a new form interactively",
      "  generate  Regenerate a form from a saved configuration without prompting",
      "  help      Print this message or the help of the given subcommand(s)", "",
      "Options:",
      "  -h, --help     Print help",
      "  -V, --version  Print version" ]
  | .create =>
    [ "Create a new form interactively", "",
      "Usage: formgen create [OPTIONS]", "",
      "Options:",
      "  -c, --config <CONFIG>  Saved configuration (JSON or YAML) to load instead of prompting",
      "  -o, --output <OUTPUT>  Directory to write the generated files to",
      "      --dry-run          Show what would be written without writing anything",
      "  -y, --yes              Auto-confirm all prompts (non-interactive mode)",
      "  -h, --help             Print help" ]
  | .generate =>
    [ "Regenerate a form from a saved configuration without prompting", "",
      "Usage: formgen generate [OPTIONS] --config <CONFIG>", "",
      "Options:",
      "  -c, --config <CONFIG>  Saved configuration (JSON or YAML)",
      "  -o, --output <OUTPUT>  Directory to write the generated files to",
      "      --dry-run          Show what would be written without writing anything",
      "  -h, --help             Print help" ]

variable {m : Type → Type} [Monad m] [Terminal m] [FileAccess m]

/-- Runs a command. -/
def Command.run (environment : Option String) : Command → m (Except Failure Unit)
  | .create options => FormScaffold.create options environment
  | .generate config output dryRun => do
    let current ← FileAccess.currentDirectory
    regenerate config (Settings.resolve output environment current dryRun)

/-- Runs the program and returns its exit code. -/
def run (arguments : List String) (environment : Option String) : m UInt32 := do
  match Command.ofArguments arguments with
  | .error (.help topic) =>
    printLines (helpLines topic)
    return 0
  | .error .version =>
    Terminal.printLine ("formgen " ++ generatorVersion)
    return 0
  | .error (.misuse error) =>
    Terminal.warnLine error.message
    return 2
  | .ok command =>
    match ← command.run environment with
    | .ok () => return 0
    | .error failure =>
      failure.report.forM Terminal.warnLine
      return 1

end FormScaffold.CommandLine
