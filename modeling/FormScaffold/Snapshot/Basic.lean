import FormScaffold.Form.Valid

/-!
# Saved forms

A snapshot is the saved record of a form.  It keeps every choice by its name and has room for the
values of features that are off; a form is read from it with `Snapshot.toForm`, which reports the
first name or value that does not fit, and written to it with `Snapshot.ofForm`.
-/

namespace FormScaffold

/-- A saved field. -/
structure Snapshot.Field where
  name : String
  label : String
  placeholder : String
  type : String
  validation : String
  errorMessage : String
deriving DecidableEq, Repr

/-- A saved button. -/
structure Snapshot.Button where
  name : String
  variant : String
deriving DecidableEq, Repr

/-- A saved form. -/
structure Snapshot where
  formName : String
  inputCount : Option Nat
  buttonCount : Option Nat
  submitButtonIndex : Nat
  addLink : Bool
  linkText : Option String
  linkHref : Option String
  routerType : String
  useServerActions : Bool
  createApiRoute : Bool
  useTypeScript : Option Bool
  formStyle : String
  horizontalAlignment : Option String
  verticalAlignment : Option String
  formWidth : String
  useCustomColors : Bool
  primaryColor : Option String
  secondaryColor : Option String
  addLoadingState : Bool
  addErrorHandling : Bool
  successMessage : String
  errorMessage : String
  includeDatabase : Bool
  databaseName : Option String
  collectionName : Option String
  inputFields : List Snapshot.Field
  buttons : List Snapshot.Button
  generatorVersion : Option String
deriving DecidableEq, Repr

/-- The version that generated snapshots are stamped with. -/
def generatorVersion : String := "0.1.1"

namespace Snapshot

/-! ## From forms -/

def Field.ofField (field : FormScaffold.Field) : Field where
  name := field.name
  label := field.label
  placeholder := field.placeholder
  type := field.type.name
  validation := field.rules
  errorMessage := field.message.getD ""

def Button.ofButton (button : FormScaffold.Button) : Button where
  name := button.text
  variant := button.variant.name

/-- The snapshot of a form, without a version. -/
def ofForm (form : Form) : Snapshot where
  formName := form.name
  inputCount := some form.fields.length
  buttonCount := some form.buttons.length
  submitButtonIndex := form.submitIndex
  addLink := form.link.isSome
  linkText := form.link.map (·.text)
  linkHref := form.link.map (·.target)
  routerType := form.routing.name
  useServerActions := form.serverAction
  createApiRoute := form.apiRoute
  useTypeScript := some true
  formStyle := form.layout.name
  horizontalAlignment := form.horizontal.map (·.name)
  verticalAlignment := form.vertical.map (·.name)
  formWidth := form.width
  useCustomColors := form.theme.isSome
  primaryColor := form.theme.map (·.primary)
  secondaryColor := form.theme.map (·.secondary)
  addLoadingState := form.loadingState
  addErrorHandling := form.errorDisplay
  successMessage := form.successMessage
  errorMessage := form.errorMessage
  includeDatabase := form.storage.isSome
  databaseName := form.storage.map (·.database)
  collectionName := form.storage.map (·.collection)
  inputFields := form.fields.map Field.ofField
  buttons := form.buttons.map Button.ofButton
  generatorVersion := none

/-- The snapshot with the version of this generator. -/
def stamped (snapshot : Snapshot) : Snapshot :=
  { snapshot with generatorVersion := some FormScaffold.generatorVersion }

/-! ## To forms -/

/-- A value, or the violation that its key has none. -/
def required (key : String) : Option String → Except Violation String
  | some value => .ok value
  | none => .error (.missing key)

/-- The field that was saved at an index.  A blank message counts as none. -/
def Field.toField (index : Nat) (field : Field) : Except Violation FormScaffold.Field :=
  match InputType.ofName? field.type with
  | none => .error (.unknownFieldType index field.type)
  | some type =>
    .ok
      { name := field.name
        label := field.label
        placeholder := field.placeholder
        type
        rules := field.validation
        message := if Text.AllBlank field.errorMessage then none else some field.errorMessage }

/-- The fields that were saved from an index on. -/
def toFields (index : Nat) : List Field → Except Violation (List FormScaffold.Field)
  | [] => .ok []
  | f :: fs => do
    let field ← f.toField index
    let fields ← toFields (index + 1) fs
    return field :: fields

/-- The button that was saved at an index. -/
def Button.toButton (index : Nat) (button : Button) : Except Violation FormScaffold.Button :=
  match ButtonVariant.ofName? button.variant with
  | none => .error (.unknownButtonVariant index button.variant)
  | some variant => .ok { text := button.name, variant }

/-- The buttons that were saved from an index on. -/
def toButtons (index : Nat) : List Button → Except Violation (List FormScaffold.Button)
  | [] => .ok []
  | b :: bs => do
    let button ← b.toButton index
    let buttons ← toButtons (index + 1) bs
    return button :: buttons

def toRouting (snapshot : Snapshot) : Except Violation Routing :=
  match Routing.ofName? snapshot.routerType with
  | some routing => .ok routing
  | none => .error (.unknownRoutingStyle snapshot.routerType)

def toLink (snapshot : Snapshot) : Except Violation (Option Link) :=
  if snapshot.addLink then do
    let text ← required "linkText" snapshot.linkText
    let target ← required "linkHref" snapshot.linkHref
    return some { text, target }
  else .ok none

def toTheme (snapshot : Snapshot) : Except Violation (Option Theme) :=
  if snapshot.useCustomColors then do
    let primary ← required "primaryColor" snapshot.primaryColor
    let secondary ← required "secondaryColor" snapshot.secondaryColor
    return some { primary, secondary }
  else .ok none

def toStorage (snapshot : Snapshot) : Except Violation (Option Storage) :=
  if snapshot.includeDatabase then do
    let database ← required "databaseName" snapshot.databaseName
    let collection ← required "collectionName" snapshot.collectionName
    return some { database, collection }
  else .ok none

/-- The form that was saved. -/
def toForm (snapshot : Snapshot) : Except Violation Form := do
  let routing ← snapshot.toRouting
  let fields ← toFields 0 snapshot.inputFields
  let buttons ← toButtons 0 snapshot.buttons
  let link ← snapshot.toLink
  let theme ← snapshot.toTheme
  let storage ← snapshot.toStorage
  return {
    name := snapshot.formName
    fields
    buttons
    submitIndex := snapshot.submitButtonIndex
    layout := Layout.ofName snapshot.formStyle
    horizontal := snapshot.horizontalAlignment.bind HorizontalAlign.ofName?
    vertical := snapshot.verticalAlignment.bind VerticalAlign.ofName?
    width := snapshot.formWidth
    loadingState := snapshot.addLoadingState
    errorDisplay := snapshot.addErrorHandling
    theme
    storage
    serverAction := snapshot.useServerActions
    apiRoute := snapshot.createApiRoute
    routing
    successMessage := snapshot.successMessage
    errorMessage := snapshot.errorMessage
    link }

end Snapshot

end FormScaffold
