import FormScaffold.Artifact.Basic
import FormScaffold.Files.Access
import FormScaffold.Settings
import FormScaffold.Text.Numeral

/-!
# Writing artifacts

Artifacts are written as a whole.  Each is first staged in a file beside its target; only when all
are staged are they moved into place.  When something fails, what has been staged is removed.
-/

namespace FormScaffold

/-- A file that is written, or would be. -/
structure PlannedFile where
  role : Role
  path : Path
  contents : String
deriving DecidableEq, Repr

/-- The number of bytes of a file. -/
def PlannedFile.size (file : PlannedFile) : Nat := file.contents.utf8ByteSize

/-- A file as a message lists it. -/
def PlannedFile.summary (file : PlannedFile) : String :=
  file.path.text ++ " (" ++ file.role.displayName ++ ", " ++ Text.decimal file.size ++ " bytes)"

/-- Why artifacts are not written. -/
inductive WriteError where
  | directory (path : Path) (fault : Fault)
  | file (path : Path) (fault : Fault)
deriving DecidableEq, Repr

namespace WriteError

def fault : WriteError → Fault
  | directory _ fault | file _ fault => fault

def message : WriteError → String
  | directory path fault => "failed to create directory " ++ path.text ++ ": " ++ fault.message
  | file path fault => "failed to write file " ++ path.text ++ ": " ++ fault.message

end WriteError

/-! ## Places -/

namespace Artifact

/-- Where an artifact is written in an output directory. -/
def target (artifact : Artifact) (directory : Path) : Path :=
  ((pathSegments artifact.path).filter (· ≠ "")).foldl (fun path name => path.join ⟨[name]⟩)
    directory

def planned (artifact : Artifact) (directory : Path) : PlannedFile where
  role := artifact.role
  path := artifact.target directory
  contents := artifact.contents

end Artifact

/-- The file beside a target in which its contents are staged. -/
def stagingPath (target : Path) : Path :=
  target.sibling ("." ++ target.fileName?.getD "" ++ ".formgen-tmp")

/-! ## Writing -/

section

variable {m : Type → Type} [Monad m] [FileAccess m]

/-- Makes the directories of files. -/
def makeParents : List PlannedFile → m (Except WriteError Unit)
  | [] => return .ok ()
  | file :: files => do
    match file.path.parent? with
    | none => makeParents files
    | some parent =>
      match ← FileAccess.makeDirectories parent with
      | .ok () => makeParents files
      | .error fault => return .error (.directory parent fault)

/-- Writes a file beside its target, where no directory may stand. -/
def stage (file : PlannedFile) : m (Except WriteError Unit) := do
  if ← FileAccess.isDirectory file.path then return .error (.file file.path .occupied)
  let staging := stagingPath file.path
  match ← FileAccess.write staging file.contents.toUTF8 with
  | .ok () => return .ok ()
  | .error fault => return .error (.file staging fault)

/-- Removes files as far as that is possible. -/
def discard : List Path → m Unit
  | [] => return
  | path :: paths => do
    let _ ← FileAccess.remove path
    discard paths

/-- Stages files, after some have been staged already.  If one fails, all are removed again. -/
def stageAll (staged : List Path) : List PlannedFile → m (Except WriteError Unit)
  | [] => return .ok ()
  | file :: files => do
    match ← stage file with
    | .ok () => stageAll (staged ++ [stagingPath file.path]) files
    | .error error =>
      discard staged
      return .error error

/-- Moves staged files into place.  If that fails for one, the rest is removed, and so are the
files that are new. -/
def moveAll (created : List Path) : List PlannedFile → m (Except WriteError Unit)
  | [] => return .ok ()
  | file :: files => do
    let existed ← FileAccess.isPresent file.path
    match ← FileAccess.rename (stagingPath file.path) file.path with
    | .ok () => moveAll (if existed then created else created ++ [file.path]) files
    | .error fault =>
      discard ((file :: files).map fun file => stagingPath file.path)
      discard created
      return .error (.file file.path fault)

/-- Writes files. -/
def writeFiles (files : List PlannedFile) : m (Except WriteError Unit) := do
  match ← makeParents files with
  | .error error => return .error error
  | .ok () =>
    match ← stageAll [] files with
    | .error error => return .error error
    | .ok () => moveAll [] files

/-- Writes artifacts into the output directory and lists their files.  A dry run only lists. -/
def writeArtifacts (artifacts : List Artifact) (settings : Settings) :
    m (Except WriteError (List PlannedFile)) := do
  let files := artifacts.map fun artifact => artifact.planned settings.directory
  if settings.dryRun then return .ok files
  match ← writeFiles files with
  | .ok () => return .ok files
  | .error error => return .error error

end

end FormScaffold
