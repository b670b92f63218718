import FormScaffold.Files.Access
import FormScaffold.Text.Order

/-!
# Finding saved forms

Saved forms are looked for in a directory and up to three levels below it, by the ends of their
file names.
-/

namespace FormScaffold.Snapshot

/-- The ends of the names of saved forms; something must stand before them. -/
def fileSuffixes : List String := ["Config.json", "Config.yaml", "Config.yml"]

/-- Whether a file name is that of a saved form. -/
def isFileName (name : String) : Bool :=
  fileSuffixes.any fun suffix =>
    suffix.toList.isSuffixOf name.toList && suffix.length < name.length

/-- How many levels below a directory are searched. -/
def searchDepth : Nat := 3

variable {m : Type → Type} [Monad m] [FileAccess m]

/-- The files below a directory that have a name of a saved form, each by the names that lead to
it.  What cannot be listed holds none. -/
def filesBelow : Nat → Path → m (List (List String))
  | 0, _ => return []
  | depth + 1, directory => do
    match ← FileAccess.list directory with
    | .error _ => return []
    | .ok children =>
      let found ← children.mapM fun (name, kind) =>
        match kind with
        | .file => return if isFileName name then [[name]] else []
        | .directory => do
          let below ← filesBelow depth (directory.join ⟨[name]⟩)
          return below.map (name :: ·)
        | .other => return []
      return found.flatten

/-- Compares two ways through directories, name by name. -/
def compareNames : List String → List String → Ordering :=
  Text.compareLists fun a b => Text.compareChars a.toList b.toList

/-- The saved forms at and below a path, in the order of their names from the top. -/
def discover (start : Path) : m (List Path) := do
  match ← FileAccess.kind start with
  | .error _ => return []
  | .ok .directory =>
    let found ← filesBelow searchDepth start
    let ordered := found.mergeSort fun a b => (compareNames a b).isLE
    return ordered.map fun names => names.foldl (fun path name => path.join ⟨[name]⟩) start
  | .ok .file => return if isFileName (start.fileName?.getD start.text) then [start] else []
  | .ok .other => return []

end FormScaffold.Snapshot
