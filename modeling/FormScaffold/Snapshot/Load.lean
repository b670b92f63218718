import FormScaffold.Files.Access
import FormScaffold.Snapshot.Json
import FormScaffold.Snapshot.Yaml
import FormScaffold.Version

/-!
# Loading snapshots from files

A file whose extension says so holds YAML, every other one JSON.  What a file holds is read by a
function on its text alone.
-/

namespace FormScaffold

/-- Why a snapshot is not loaded. -/
inductive LoadError where
  | unreadable (path : Path) (fault : Fault)
  | json (path : Path) (problem : Json.Problem)
  | yaml (path : Path)
  | invalid (path : Path) (violation : Violation)
deriving DecidableEq, Repr

namespace LoadError

def message : LoadError → String
  | unreadable path fault => "failed to read " ++ path.text ++ ": " ++ fault.message
  | json path problem => "invalid JSON in " ++ path.text ++ ": " ++ problem.message
  | yaml path => "invalid YAML in " ++ path.text
  | invalid path violation =>
    "invalid configuration in " ++ path.text ++ ": " ++ violation.message

/-- What lies behind an error. -/
def cause? : LoadError → Option String
  | unreadable _ fault => some fault.message
  | json _ problem => some problem.message
  | yaml _ => none
  | invalid _ violation => some violation.message

end LoadError

/-- A form and the version of the generator that saved it, if that is known. -/
structure LoadedForm where
  form : Form
  savedBy : Option String
deriving DecidableEq, Repr

/-- The warning about a form that a newer generator has saved. -/
def LoadedForm.warning? (loaded : LoadedForm) : Option String :=
  loaded.savedBy.bind (Version.newerWarning? generatorVersion)

namespace Snapshot

/-- Whether the file at a path holds YAML. -/
def isYamlPath (path : Path) : Bool :=
  path.extension? = some "yaml" || path.extension? = some "yml"

/-- The snapshot in the text of a file. -/
def ofFileText (path : Path) (text : String) : Except LoadError Snapshot :=
  if isYamlPath path then
    match ofYamlText? text with
    | some snapshot => .ok snapshot
    | none => .error (.yaml path)
  else (ofText text).mapError (.json path)

/-- The form in the text of a file. -/
def formOfFileText (path : Path) (text : String) : Except LoadError LoadedForm := do
  let snapshot ← ofFileText path text
  let form ← snapshot.toForm.mapError (.invalid path)
  return { form, savedBy := snapshot.generatorVersion }

/-- Loads a form from a file. -/
def load {m : Type → Type} [Monad m] [FileAccess m] (path : Path) :
    m (Except LoadError LoadedForm) := do
  match ← FileAccess.readText path with
  | .error fault => return .error (.unreadable path fault)
  | .ok text => return formOfFileText path text

end Snapshot

end FormScaffold
