import FormScaffold.Form.Basic
import FormScaffold.Text.Blank
import FormScaffold.Text.Numeral

/-!
# Valid forms

What a form must satisfy before anything is generated from it.  `Form.violation?` finds the first
requirement that fails, in a fixed order, and says at which field or button.
-/

namespace FormScaffold

/-- Why a form is refused. -/
inductive Violation where
  | invalidFormName (name : String)
  | invalidFieldName (index : Nat) (name : String)
  | duplicateFieldName (index : Nat) (name : String)
  | unknownFieldType (index : Nat) (value : String)
  | unknownButtonVariant (index : Nat) (value : String)
  | emptyButtonName (index : Nat)
  | unknownRoutingStyle (value : String)
  | noButtons
  | submitIndexOutOfRange (index count : Nat)
  | missing (key : String)
  | invalidColor (key value : String)
  | invalidStorageName (key value : String)
  | serverActionNeedsApp
  | routeRequired
  | invalidWidth (value : String)
deriving DecidableEq, Repr

namespace Violation

open Text (decimal)

/-- The sentence that names the key at fault and what is wrong with it. -/
def message : Violation → String
  | invalidFormName name => "formName: '" ++ name ++ "' is not a valid identifier"
  | invalidFieldName index name =>
    "inputFields[" ++ decimal index ++ "].name: '" ++ name ++ "' is not a valid identifier"
  | duplicateFieldName index name =>
    "inputFields[" ++ decimal index ++ "].name: '" ++ name ++ "' is used by more than one field"
  | unknownFieldType index value =>
    "inputFields[" ++ decimal index ++ "].type: unknown input type '" ++ value ++ "'"
  | unknownButtonVariant index value =>
    "buttons[" ++ decimal index ++ "].variant: unknown button variant '" ++ value ++ "'"
  | emptyButtonName index =>
    "buttons[" ++ decimal index ++ "].name: button text cannot be empty"
  | unknownRoutingStyle value =>
    "routerType: unknown routing style '" ++ value ++ "' (expected 'app' or 'pages')"
  | noButtons => "buttons: the form needs at least one button"
  | submitIndexOutOfRange index count =>
    "submitButtonIndex: " ++ decimal index ++ " does not reference a button (expected 1..=" ++
      decimal count ++ ")"
  | missing key => key ++ ": missing value"
  | invalidColor key value => key ++ ": '" ++ value ++ "' is not a #RRGGBB hex color"
  | invalidStorageName key value =>
    key ++ ": '" ++ value ++ "' must not contain quotes, backslashes or whitespace"
  | serverActionNeedsApp =>
    "useServerActions: server actions require the 'app' routing style"
  | routeRequired =>
    "createApiRoute: saving to the database without server actions needs the API route"
  | invalidWidth value =>
    "formWidth: '" ++ value ++ "' must not contain quotes, braces or angle brackets"

end Violation

/-! ## Requirements on single texts -/

/-- A letter, an underscore or a dollar sign. -/
def startsIdentifier (c : Char) : Bool := c.isAlpha || c = '_' || c = '$'

/-- A character of an identifier after its first. -/
def continuesIdentifier (c : Char) : Bool := c.isAlphanum || c = '_' || c = '$'

/-- A text that can name a symbol: ASCII letters, digits, `_` and `$`, no digit in front. -/
def isIdentifier (s : String) : Bool :=
  match s.toList with
  | [] => false
  | c :: cs => startsIdentifier c && cs.all continuesIdentifier

/-- A hash sign and six hexadecimal digits. -/
def isHexColor (s : String) : Bool :=
  match s.toList with
  | '#' :: digits => digits.length = 6 && digits.all fun c => (Text.digitValue? c).isSome
  | _ => false

/-- The characters that class names must not hold: quotes, backslash, braces, angle brackets. -/
def breaksClassList (c : Char) : Bool :=
  ['\x22', '\x27', '\x60', '\\', '\x7b', '\x7d', '<', '>'].contains c

/-- Class names that are safe between double quotes. -/
def isClassList (s : String) : Bool := !s.toList.any breaksClassList

/-- A quote, a backslash or white space. -/
def breaksStorageName (c : Char) : Bool :=
  ['\x22', '\x27', '\x60', '\\'].contains c || Text.isBlank c

/-- A name for a database or a collection. -/
def isStorageName (s : String) : Bool := !s.toList.any breaksStorageName

/-! ## Requirements on a form -/

/-- The violation if the condition fails. -/
def require (condition : Bool) (violation : Violation) : Option Violation :=
  if condition then none else some violation

/-- The first field that is misnamed, given the names before it and how many there were. -/
def fieldViolation? (index : Nat) (seen : List String) : List Field → Option Violation
  | [] => none
  | f :: fs =>
    if !isIdentifier f.name then some (.invalidFieldName index f.name)
    else if f.name ∈ seen then some (.duplicateFieldName index f.name)
    else fieldViolation? (index + 1) (f.name :: seen) fs

/-- The first button without a text, given how many buttons stand before. -/
def buttonViolation? (index : Nat) : List Button → Option Violation
  | [] => none
  | b :: bs =>
    if Text.AllBlank b.text then some (.emptyButtonName index) else buttonViolation? (index + 1) bs

def Link.violation? (link : Link) : Option Violation :=
  (require (!decide (Text.AllBlank link.text)) (.missing "linkText")).or
    (require (!decide (Text.AllBlank link.target)) (.missing "linkHref"))

def Theme.violation? (theme : Theme) : Option Violation :=
  (require (isHexColor theme.primary) (.invalidColor "primaryColor" theme.primary)).or
    (require (isHexColor theme.secondary) (.invalidColor "secondaryColor" theme.secondary))

/-- What is wrong with the name of a database or a collection. -/
def storageNameViolation? (key name : String) : Option Violation :=
  (require (name ≠ "") (.missing key)).or
    (require (isStorageName name) (.invalidStorageName key name))

def Storage.violation? (storage : Storage) : Option Violation :=
  (storageNameViolation? "databaseName" storage.database).or
    (storageNameViolation? "collectionName" storage.collection)

namespace Form

/-- The requirements in the order in which they are reported. -/
def violations (form : Form) : List (Option Violation) :=
  [ require (isIdentifier form.name) (.invalidFormName form.name),
    fieldViolation? 0 [] form.fields,
    require (!form.buttons.isEmpty) .noButtons,
    buttonViolation? 0 form.buttons,
    require (1 ≤ form.submitIndex && form.submitIndex ≤ form.buttons.length)
      (.submitIndexOutOfRange form.submitIndex form.buttons.length),
    require (isClassList form.width) (.invalidWidth form.width),
    form.link.bind Link.violation?,
    form.theme.bind Theme.violation?,
    form.storage.bind Storage.violation?,
    require (!form.serverAction || form.routing = .app) .serverActionNeedsApp,
    require (form.storage.isNone || form.serverAction || form.apiRoute) .routeRequired ]

/-- The first requirement that fails. -/
def violation? (form : Form) : Option Violation := form.violations.findSome? id

/-- A form is valid when no requirement fails. -/
def validate (form : Form) : Except Violation Unit :=
  match form.violation? with
  | none => .ok ()
  | some violation => .error violation

end Form

end FormScaffold
