import FormScaffold.Snapshot.Basic

/-!
# The keys of a snapshot

A record is saved under named keys.  For each of the three records the keys are listed in their
order, with the type of the value under each, and the record is put together from the values that
were found: a key without a value has its default, and only few keys must be there.
-/

namespace FormScaffold

/-- The keys of a record. -/
class RecordKey (κ : Type) where
  /-- The keys in their order -/
  all : List κ
  name : κ → String
  /-- The type of the value under a key -/
  Datum : κ → Type

namespace RecordKey

variable {κ : Type} [DecidableEq κ] [RecordKey κ]

/-- The key with a name. -/
def ofName? (s : String) : Option κ := (all (κ := κ)).find? fun k => name k = s

/-- A key and its value. -/
abbrev Entry (κ : Type) [RecordKey κ] : Type := (k : κ) × Datum k

/-- The value under a key. -/
def find? (k : κ) : List (Entry κ) → Option (Datum k)
  | [] => none
  | ⟨k', d⟩ :: entries => if h : k' = k then some (h ▸ d) else find? k entries

/-- Whether there is a value under a key. -/
def has (k : κ) (entries : List (Entry κ)) : Bool := entries.any fun e => e.1 = k

end RecordKey

namespace Snapshot

/-! ## Fields and buttons -/

inductive FieldKey where
  | name | label | placeholder | type | validation | errorMessage
deriving DecidableEq, Repr

instance : RecordKey FieldKey where
  all := [.name, .label, .placeholder, .type, .validation, .errorMessage]
  name
    | .name => "name"
    | .label => "label"
    | .placeholder => "placeholder"
    | .type => "type"
    | .validation => "validation"
    | .errorMessage => "errorMessage"
  Datum _ := String

/-- The field with some values; its name must be among them. -/
def Field.ofValues (get : FieldKey → Option String) : Except FieldKey Field :=
  match get .name with
  | none => .error .name
  | some name =>
    .ok
      { name
        label := (get .label).getD ""
        placeholder := (get .placeholder).getD ""
        type := (get .type).getD InputType.text.name
        validation := (get .validation).getD ""
        errorMessage := (get .errorMessage).getD "" }

inductive ButtonKey where
  | name | variant
deriving DecidableEq, Repr

instance : RecordKey ButtonKey where
  all := [.name, .variant]
  name
    | .name => "name"
    | .variant => "variant"
  Datum _ := String

/-- The button with some values; its name must be among them. -/
def Button.ofValues (get : ButtonKey → Option String) : Except ButtonKey Button :=
  match get .name with
  | none => .error .name
  | some name => .ok { name, variant := (get .variant).getD ButtonVariant.default.name }

/-! ## Forms -/

inductive FormKey where
  | formName | inputCount | buttonCount | submitButtonIndex | addLink | linkText | linkHref
  | routerType | useServerActions | createApiRoute | useTypeScript | formStyle
  | horizontalAlignment | verticalAlignment | formWidth | useCustomColors | primaryColor
  | secondaryColor | addLoadingState | addErrorHandling | successMessage | errorMessage
  | includeDatabase | databaseName | collectionName | inputFields | buttons | generatorVersion
deriving DecidableEq, Repr

/-- What kind of value stands under a key of a form. -/
inductive ValueKind where
  | text | flag | count | fields | buttons
  | optional (kind : ValueKind)
deriving DecidableEq, Repr

/-- The type of the values of a kind. -/
def ValueKind.Datum : ValueKind → Type
  | text => String
  | flag => Bool
  | count => Nat
  | fields => List Field
  | buttons => List Button
  | optional kind => Option kind.Datum

namespace FormKey

def all : List FormKey :=
  [ formName, inputCount, buttonCount, submitButtonIndex, addLink, linkText, linkHref,
    routerType, useServerActions, createApiRoute, useTypeScript, formStyle, horizontalAlignment,
    verticalAlignment, formWidth, useCustomColors, primaryColor, secondaryColor,
    addLoadingState, addErrorHandling, successMessage, errorMessage, includeDatabase,
    databaseName, collectionName, inputFields, buttons, generatorVersion ]

def name : FormKey → String
  | formName => "formName"
  | inputCount => "inputCount"
  | buttonCount => "buttonCount"
  | submitButtonIndex => "submitButtonIndex"
  | addLink => "addLink"
  | linkText => "linkText"
  | linkHref => "linkHref"
  | routerType => "routerType"
  | useServerActions => "useServerActions"
  | createApiRoute => "createApiRoute"
  | useTypeScript => "useTypeScript"
  | formStyle => "formStyle"
  | horizontalAlignment => "horizontalAlignment"
  | verticalAlignment => "verticalAlignment"
  | formWidth => "formWidth"
  | useCustomColors => "useCustomColors"
  | primaryColor => "primaryColor"
  | secondaryColor => "secondaryColor"
  | addLoadingState => "addLoadingState"
  | addErrorHandling => "addErrorHandling"
  | successMessage => "successMessage"
  | errorMessage => "errorMessage"
  | includeDatabase => "includeDatabase"
  | databaseName => "databaseName"
  | collectionName => "collectionName"
  | inputFields => "inputFields"
  | buttons => "buttons"
  | generatorVersion => "generatorVersion"

def kind : FormKey → ValueKind
  | formName | routerType | formStyle | formWidth | successMessage | errorMessage => .text
  | submitButtonIndex => .count
  | addLink | useServerActions | createApiRoute | useCustomColors | addLoadingState
  | addErrorHandling | includeDatabase => .flag
  | inputCount | buttonCount => .optional .count
  | useTypeScript => .optional .flag
  | linkText | linkHref | horizontalAlignment | verticalAlignment | primaryColor
  | secondaryColor | databaseName | collectionName | generatorVersion => .optional .text
  | inputFields => .fields
  | buttons => .buttons

end FormKey

instance : RecordKey FormKey where
  all := FormKey.all
  name := FormKey.name
  Datum k := k.kind.Datum

/-- The snapshot with some values; the form's name and the submit index must be among them. -/
def ofValues (get : (k : FormKey) → Option (RecordKey.Datum k)) : Except FormKey Snapshot :=
  match get .formName, get .submitButtonIndex with
  | none, _ => .error .formName
  | some _, none => .error .submitButtonIndex
  | some formName, some submitButtonIndex =>
    .ok
      { formName
        inputCount := (get .inputCount).getD none
        buttonCount := (get .buttonCount).getD none
        submitButtonIndex
        addLink := (get .addLink).getD false
        linkText := (get .linkText).getD none
        linkHref := (get .linkHref).getD none
        routerType := (get .routerType).getD Routing.app.name
        useServerActions := (get .useServerActions).getD false
        createApiRoute := (get .createApiRoute).getD false
        useTypeScript := (get .useTypeScript).getD none
        formStyle := (get .formStyle).getD Layout.stacked.name
        horizontalAlignment := (get .horizontalAlignment).getD none
        verticalAlignment := (get .verticalAlignment).getD none
        formWidth := (get .formWidth).getD Form.defaultWidth
        useCustomColors := (get .useCustomColors).getD false
        primaryColor := (get .primaryColor).getD none
        secondaryColor := (get .secondaryColor).getD none
        addLoadingState := (get .addLoadingState).getD false
        addErrorHandling := (get .addErrorHandling).getD false
        successMessage := (get .successMessage).getD Form.defaultSuccessMessage
        errorMessage := (get .errorMessage).getD Form.defaultErrorMessage
        includeDatabase := (get .includeDatabase).getD false
        databaseName := (get .databaseName).getD none
        collectionName := (get .collectionName).getD none
        inputFields := (get .inputFields).getD []
        buttons := (get .buttons).getD []
        generatorVersion := (get .generatorVersion).getD none }

end Snapshot

end FormScaffold
