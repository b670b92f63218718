import FormScaffold.Session.Failure
import FormScaffold.SetupSteps

/-!
# Regenerating a saved form

A saved form is generated again without asking anything.
-/

namespace FormScaffold

/-- Numbered lines. -/
def numbered (separator : String) (lines : List String) : List String :=
  lines.zipIdx.map fun (line, i) => "  " ++ Text.decimal (i + 1) ++ separator ++ line

variable {m : Type → Type} [Monad m] [Terminal m]

def printLines (lines : List String) : m Unit := lines.forM Terminal.printLine

/-- What is printed at the end: the files, how many there are, and the steps to take. -/
def regenerationReport (form : Form) (files : List PlannedFile) (dryRun : Bool) : List String :=
  files.map (fun file => (if dryRun then "  Would write " else "  Wrote ") ++ file.summary) ++
    [ "",
      (if dryRun then "Planned " else "Generated ") ++ Text.decimal files.length ++
        " files for " ++ form.name,
      "",
      "Next steps:" ] ++
    numbered ". " form.setupSteps

/-- Generates a saved form again. -/
def regenerate [FileAccess m] (path : Path) (settings : Settings) : m (Except Failure Unit) := do
  Terminal.printLine ("Loading configuration from " ++ path.text)
  match ← Snapshot.load path with
  | .error error => return .error (.load error)
  | .ok loaded =>
    match loaded.warning? with
    | some warning => Terminal.warnLine ("warning: " ++ warning)
    | none => pure ()
    match loaded.form.generate with
    | .error error => return .error (.generate loaded.form.name error)
    | .ok artifacts =>
      match ← writeArtifacts artifacts settings with
      | .error error => return .error (.write error)
      | .ok files =>
        printLines (regenerationReport loaded.form files settings.dryRun)
        return .ok ()

end FormScaffold
