import FormScaffold.Form.Basic
import FormScaffold.Text.Split

/-!
# Names of artifacts and symbols

The symbols and the paths of the artifacts of a form are derived from its name and its routing
alone, and an import between two artifacts is derived from their paths.
-/

namespace FormScaffold

/-- What a generated file is for. -/
inductive Role where
  | component | schema | serverAction | apiRoute | databaseClient | snapshot
deriving DecidableEq, Repr

namespace Role

def all : List Role := [component, schema, serverAction, apiRoute, databaseClient, snapshot]

/-- What the file is called in messages. -/
def displayName : Role → String
  | component => "component"
  | schema => "schema"
  | serverAction => "server action"
  | apiRoute => "API route"
  | databaseClient => "MongoDB client"
  | snapshot => "configuration snapshot"

end Role

/-- What all names of a form are derived from. -/
structure Naming where
  form : String
  routing : Routing
deriving DecidableEq, Repr

def Form.naming (form : Form) : Naming := { form := form.name, routing := form.routing }

/-- The environment variable with the address of the database. -/
def databaseVariable : String := "MONGODB_URI"

/-! ## Imports by path -/

/-- How many segments two paths have in common at the front. -/
def commonLength : List String → List String → Nat
  | a :: as, b :: bs => if a = b then commonLength as bs + 1 else 0
  | _, _ => 0

/-- The segments of a path between slashes. -/
def pathSegments (path : String) : List String :=
  (Text.split (· = '/') path.toList).map String.ofList

/-- A file name without its last extension. -/
def dropExtension (name : String) : String :=
  match Text.cutLast (· = '.') name.toList with
  | some (stem, _) => String.ofList stem
  | none => name

/-- The segments that lead from a directory to a file: steps up to the last common directory,
steps down to the file's directory, and the file's name without its extension. -/
def relativeSegments (fromDirs toDirs : List String) (toName : String) : List String :=
  let common := commonLength fromDirs toDirs
  let ups := fromDirs.length - common
  (if ups = 0 then ["."] else List.replicate ups "..") ++ toDirs.drop common ++
    [dropExtension toName]

/-- How a file imports another one, given the paths of both. -/
def relativeImport (fromFile toFile : String) : String :=
  let toSegments := pathSegments toFile
  "/".intercalate (relativeSegments (pathSegments fromFile).dropLast toSegments.dropLast
    (toSegments.getLastD ""))

/-! ## Names of one form -/

namespace Naming

def schemaSymbol (names : Naming) : String := names.form ++ "Schema"

def valuesSymbol (names : Naming) : String := names.form ++ "Values"

def componentSymbol (names : Naming) : String := names.form ++ "Form"

def actionSymbol (names : Naming) : String := names.form ++ "Action"

/-- The address of the API route, whatever the routing. -/
def routeUrl (names : Naming) : String := "/api/" ++ names.form

/-- Where an artifact is written, below the output directory. -/
def path (names : Naming) : Role → String
  | .component => names.routing.name ++ "/" ++ names.form ++ ".tsx"
  | .schema => names.form ++ "Schema.ts"
  | .serverAction => names.routing.name ++ "/" ++ names.form ++ "Action.ts"
  | .apiRoute =>
    match names.routing with
    | .app => "app/api/" ++ names.form ++ "/route.ts"
    | .pages => "pages/api/" ++ names.form ++ ".ts"
  | .databaseClient => "lib/mongodb.ts"
  | .snapshot => names.form ++ "Config.json"

/-- How an artifact imports another one. -/
def importPath (names : Naming) (source target : Role) : String :=
  relativeImport (names.path source) (names.path target)

end Naming

end FormScaffold
