import FormScaffold.Files.Path
import FormScaffold.Text.Blank

/-!
# Output settings
-/

namespace FormScaffold

/-- Where artifacts are written, and whether they are. -/
structure Settings where
  directory : Path
  /-- Report what would be written, and write nothing -/
  dryRun : Bool
deriving DecidableEq, Repr

namespace Settings

/-- The environment variable that names the output directory. -/
def directoryVariable : String := "FORMGEN_OUTPUT_DIR"

/-- The output directory if nothing else is said. -/
def defaultDirectory : Path := ⟨["generated-form"]⟩

/-- The settings for a directory that is given, or named by the environment, or left out.  A blank
name in the environment does not count. -/
def resolve (given : Option Path) (environment : Option String) (current : Path) (dryRun : Bool) :
    Settings :=
  let named := (environment.filter fun name => ¬Text.AllBlank name).map Path.ofString
  { directory := current.join ((given.or named).getD defaultDirectory), dryRun }

end Settings

end FormScaffold
