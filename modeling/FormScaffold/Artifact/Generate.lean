import FormScaffold.Artifact.Component
import FormScaffold.Artifact.Schema
import FormScaffold.Artifact.Server
import FormScaffold.Snapshot.Json

/-!
# Generating the artifacts of a form

A valid form is turned into its artifacts, and every artifact is searched for the names that it
must refer to before the set is handed out.
-/

namespace FormScaffold

/-- Why no artifacts are generated. -/
inductive GenerateError where
  | invalid (violation : Violation)
  /-- The artifact of a role does not hold a text that it must hold -/
  | inconsistent (role : Role) (expected : String)
deriving DecidableEq, Repr

def GenerateError.message : GenerateError → String
  | invalid violation => "invalid configuration: " ++ violation.message
  | inconsistent role expected =>
    role.displayName ++ " artifact does not contain `" ++ expected ++ "`"

namespace Form

/-- The artifacts that a form has, in the order in which they are written. -/
def roles (form : Form) : List Role :=
  [.component, .schema] ++ (if form.serverAction then [.serverAction] else []) ++
    (if form.apiRoute then [.apiRoute] else []) ++
    (if form.storage.isSome then [.databaseClient] else []) ++ [.snapshot]

/-- The contents of an artifact. -/
def contents (form : Form) : Role → String
  | .component => form.component.render
  | .schema => form.schema.render
  | .serverAction => form.serverActionCode.render
  | .apiRoute => form.apiRouteCode.render
  | .databaseClient => form.databaseClientCode.render
  | .snapshot => Snapshot.textOf form

def artifact (form : Form) (role : Role) : Artifact where
  role := role
  path := form.naming.path role
  contents := form.contents role

/-- The artifacts of a form, unchecked. -/
def artifacts (form : Form) : List Artifact := form.roles.map form.artifact

/-! ## References between artifacts -/

/-- Whether the component posts to the API route. -/
def postsToRoute (form : Form) : Bool := form.strategy = .apiRoute

/-- The symbols and addresses that an artifact must hold. -/
def expectedNames (form : Form) : Role → List String
  | .component =>
    [form.naming.schemaSymbol] ++
      (if form.serverAction then [form.naming.actionSymbol] else []) ++
      (if form.postsToRoute then [form.naming.routeUrl] else [])
  | .schema => ["export const " ++ form.naming.schemaSymbol]
  | .serverAction => [form.naming.importPath .serverAction .schema, form.naming.schemaSymbol]
  | .apiRoute => [form.naming.importPath .apiRoute .schema, form.naming.schemaSymbol]
  | .databaseClient | .snapshot => []

/-- The names of the storage, where an artifact must hold them. -/
def expectedStorageNames (form : Form) : Role → List String
  | .component | .schema => []
  | _ =>
    match form.storage with
    | some storage => [storage.database, storage.collection]
    | none => []

/-- The first text that an artifact should hold and does not. -/
def missingText? (form : Form) (artifact : Artifact) : Option String :=
  (form.expectedNames artifact.role ++ form.expectedStorageNames artifact.role).find? fun text =>
    !Text.contains artifact.contents text

/-- The first inconsistency of a set of artifacts. -/
def inconsistency? (form : Form) (artifacts : List Artifact) : Option GenerateError :=
  if form.postsToRoute && !artifacts.any fun a => a.role = .apiRoute then
    some (.inconsistent .apiRoute form.naming.routeUrl)
  else
    artifacts.findSome? fun a => (form.missingText? a).map (.inconsistent a.role)

/-- The artifacts of a valid form. -/
def generate (form : Form) : Except GenerateError (List Artifact) :=
  match form.violation? with
  | some violation => .error (.invalid violation)
  | none =>
    match form.inconsistency? form.artifacts with
    | some error => .error error
    | none => .ok form.artifacts

end Form

end FormScaffold
