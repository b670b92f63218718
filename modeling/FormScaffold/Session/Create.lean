import FormScaffold.Form.Questions
import FormScaffold.Session.Regenerate
import FormScaffold.Snapshot.Discover

/-!
# Creating a form

A form is asked for, or one that has been saved is loaded, and its files are written.  Before files
in the output directory are overwritten, that is confirmed.
-/

namespace FormScaffold

/-- What is known beforehand. -/
structure CreateOptions where
  /-- A saved form to load -/
  config : Option Path
  output : Option Path
  dryRun : Bool
  /-- Ask nothing, and confirm all -/
  yes : Bool
deriving DecidableEq, Repr

namespace Session

variable {m : Type → Type} [Monad m] [Terminal m] [FileAccess m]

/-- Asks a question whose answer needs no check. -/
def ask (q : Question) : m (Except Failure q.Answer) := do
  return (← Terminal.ask q fun _ => pure none).mapError .ask

/-! ## The form -/

/-- A path seen from a directory, if it is below. -/
def pathBelow (directory path : Path) : String :=
  let above := Path.dropSlash directory.segments
  if above.isPrefixOf path.segments then (Path.mk (path.segments.drop above.length)).text
  else path.text

/-- Asks for the path of a file. -/
def askPath : m (Except Failure Path) := do
  let question : TextQuestion :=
    { prompt := "Path to the configuration file", hint := "generated-form/ContactConfig.json"
      fallback := none, required := true, refusal? := fun _ => none }
  let check := fun s => do
    if ← FileAccess.isFile (m := m) (Path.ofString (Text.trim s)) then return none
    else return some "File does not exist or is not accessible"
  let answer ← Terminal.ask (.text question) check
  return (answer.map fun s => Path.ofString (Text.trim s)).mapError .ask

/-- Asks for one of some saved forms, or for the path of another one. -/
def askSaved (current : Path) (found : List Path) : m (Except Failure Path) := do
  if found.isEmpty then askPath
  else
    let labels := found.map (pathBelow current) ++ ["Enter a path"]
    match ← ask (.choice "Select a configuration" labels 0) with
    | .error failure => return .error failure
    | .ok choice =>
      match found[choice]? with
      | some path => return .ok path
      | none => askPath

/-- The path of the saved form to load, if one is to be loaded. -/
def chooseSaved (options : CreateOptions) : m (Except Failure (Option Path)) := do
  match options.config with
  | some path =>
    Terminal.tell (.info ("Using configuration: " ++ path.text))
    return .ok (some path)
  | none =>
    if options.yes then return .ok none
    match ← ask (.yesNo "Load a previously saved form configuration?" false) with
    | .error failure => return .error failure
    | .ok wanted =>
      if !wanted then return .ok none
      let current ← FileAccess.currentDirectory
      return (← askSaved current (← Snapshot.discover current)).map some

/-- Loads a saved form, and tells what has been loaded. -/
def loadForm (path : Path) : m (Except Failure Form) := do
  match ← Snapshot.load path with
  | .error error => return .error (.load error)
  | .ok loaded =>
    match loaded.warning? with
    | some warning =>
      Terminal.tell (.warning ("Version warning: " ++ (Text.lines warning).headD warning))
    | none => pure ()
    let form := loaded.form
    Terminal.tell (.success ("Loaded " ++ form.name ++ " (" ++ Text.decimal form.fields.length ++
      " fields, " ++ Text.decimal form.buttons.length ++ " buttons)"))
    return .ok form

/-- The form to generate. -/
def chooseForm (options : CreateOptions) : m (Except Failure Form) := do
  match ← chooseSaved options with
  | .error failure => return .error failure
  | .ok (some path) => loadForm path
  | .ok none =>
    if options.yes then return .error .nothingSaved
    return (← Form.questions.run).mapError .ask

/-- Tells what is wrong with a form that is not valid. -/
def checkForm (form : Form) : m (Except Failure Unit) := do
  match form.violation? with
  | some violation =>
    Terminal.tell (.error violation.message)
    return .error .invalidForm
  | none => return .ok ()

/-! ## The files -/

/-- Has it confirmed that files in the output directory are overwritten. -/
def confirmOutput (settings : Settings) (yes : Bool) : m (Except Failure Unit) := do
  if settings.dryRun then return .ok ()
  if !(← FileAccess.isDirectory settings.directory) then return .ok ()
  match ← FileAccess.list settings.directory with
  | .error _ => return .ok ()
  | .ok [] => return .ok ()
  | .ok items =>
    Terminal.tell (.warning (settings.directory.text ++ " has " ++ Text.decimal items.length ++
      " existing items; generated files will be overwritten"))
    if yes then return .ok ()
    match ← ask (.yesNo "Continue anyway?" true) with
    | .error failure => return .error failure
    | .ok true => return .ok ()
    | .ok false => return .error .declined

/-- Tells which files have been written, or would be. -/
def tellFiles (files : List PlannedFile) (settings : Settings) : m Unit := do
  let count := Text.decimal files.length
  if settings.dryRun then
    Terminal.tell (.progress ("Dry run: " ++ count ++ " files would be written to " ++
      settings.directory.text))
    files.forM fun file => Terminal.tell (.info file.summary)
  else
    Terminal.tell (.progress ("Created " ++ count ++ " files in " ++ settings.directory.text))

/-- Generates a form and writes its files. -/
def generateFiles (form : Form) (settings : Settings) : m (Except Failure Unit) := do
  Terminal.tell (.progress "Generating form...")
  match form.generate with
  | .error error =>
    Terminal.tell (.progress "Generation failed")
    return .error (.generate form.name error)
  | .ok artifacts =>
    match ← writeArtifacts artifacts settings with
    | .error error => return .error (.write error)
    | .ok files =>
      tellFiles files settings
      return .ok ()

/-- Tells what to do next. -/
def tellNextSteps (form : Form) : m Unit := do
  printLines (["", "  Next steps", ""] ++ numbered ".  " form.setupSteps)
  Terminal.tell (.outro (form.name ++ " form ready"))

end Session

open Session in
/-- Creates a form, where the environment may name the output directory. -/
def create {m : Type → Type} [Monad m] [Terminal m] [FileAccess m] (options : CreateOptions)
    (environment : Option String) : m (Except Failure Unit) := do
  Terminal.tell (.intro "formgen")
  match ← chooseForm options with
  | .error failure => return .error failure
  | .ok form =>
    match ← checkForm form with
    | .error failure => return .error failure
    | .ok () =>
      let current ← FileAccess.currentDirectory
      let settings := Settings.resolve options.output environment current options.dryRun
      match ← confirmOutput settings options.yes with
      | .error failure => return .error failure
      | .ok () =>
        match ← generateFiles form settings with
        | .error failure => return .error failure
        | .ok () =>
          tellNextSteps form
          return .ok ()

end FormScaffold
