/-!
# Forms

A form is the one input of the generator: its fields, its buttons, how it is laid out, how it is
submitted and where its data goes.  Every closed choice has a name in saved snapshots, and the
names are read back with `ofName?`.
-/

namespace FormScaffold

/-- What kind of input a field is. -/
inductive InputType where
  | text | email | password | number | date | tel | url | textarea
deriving DecidableEq, Repr

namespace InputType

def all : List InputType := [text, email, password, number, date, tel, url, textarea]

def name : InputType → String
  | text => "text"
  | email => "email"
  | password => "password"
  | number => "number"
  | date => "date"
  | tel => "tel"
  | url => "url"
  | textarea => "textarea"

def ofName? (s : String) : Option InputType := all.find? (·.name = s)

end InputType

/-- How a button looks. -/
inductive ButtonVariant where
  | default | destructive | outline | secondary | ghost | link
deriving DecidableEq, Repr

namespace ButtonVariant

def all : List ButtonVariant := [default, destructive, outline, secondary, ghost, link]

def name : ButtonVariant → String
  | default => "default"
  | destructive => "destructive"
  | outline => "outline"
  | secondary => "secondary"
  | ghost => "ghost"
  | link => "link"

def ofName? (s : String) : Option ButtonVariant := all.find? (·.name = s)

end ButtonVariant

/-- How the parts of a form are arranged. -/
inductive Layout where
  | stacked | card | inline
deriving DecidableEq, Repr

namespace Layout

def all : List Layout := [stacked, card, inline]

def name : Layout → String
  | stacked => "Default"
  | card => "Card"
  | inline => "Inline"

/-- The layout with a name; every other name stands for the stacked layout. -/
def ofName (s : String) : Layout := (all.find? (·.name = s)).getD stacked

end Layout

/-- Where the form stands across the page. -/
inductive HorizontalAlign where
  | left | center | right
deriving DecidableEq, Repr

namespace HorizontalAlign

def all : List HorizontalAlign := [left, center, right]

def name : HorizontalAlign → String
  | left => "Left"
  | center => "Center"
  | right => "Right"

def ofName? (s : String) : Option HorizontalAlign := all.find? (·.name = s)

end HorizontalAlign

/-- Where the form stands down the page. -/
inductive VerticalAlign where
  | top | center | bottom
deriving DecidableEq, Repr

namespace VerticalAlign

def all : List VerticalAlign := [top, center, bottom]

def name : VerticalAlign → String
  | top => "Top"
  | center => "Center"
  | bottom => "Bottom"

def ofName? (s : String) : Option VerticalAlign := all.find? (·.name = s)

end VerticalAlign

/-- How the target application registers its routes: a directory for each route, or flat files. -/
inductive Routing where
  | app | pages
deriving DecidableEq, Repr

namespace Routing

def all : List Routing := [app, pages]

def name : Routing → String
  | app => "app"
  | pages => "pages"

def ofName? (s : String) : Option Routing := all.find? (·.name = s)

end Routing

/-- One input of a form. -/
structure Field where
  name : String
  label : String
  placeholder : String
  type : InputType
  /-- Rules separated by commas, such as `required,min:3,max:50` -/
  rules : String
  /-- The message that takes the place of every rule's own message -/
  message : Option String
deriving DecidableEq, Repr

/-- A field labelled with its name, without rules. -/
def Field.named (name : String) (type : InputType) : Field :=
  { name, label := name, placeholder := "", type, rules := "", message := none }

/-- One button of a form. -/
structure Button where
  text : String
  variant : ButtonVariant
deriving DecidableEq, Repr

/-- A link beside the buttons. -/
structure Link where
  text : String
  target : String
deriving DecidableEq, Repr

/-- The two colours of a form with colours of its own. -/
structure Theme where
  primary : String
  secondary : String
deriving DecidableEq, Repr

/-- Where submitted data is stored. -/
structure Storage where
  database : String
  collection : String
deriving DecidableEq, Repr

/-- A form. -/
structure Form where
  name : String
  fields : List Field
  buttons : List Button
  /-- Which button submits, counted from one -/
  submitIndex : Nat
  layout : Layout
  horizontal : Option HorizontalAlign
  vertical : Option VerticalAlign
  /-- Class names that size the container -/
  width : String
  loadingState : Bool
  errorDisplay : Bool
  theme : Option Theme
  storage : Option Storage
  /-- Whether the page submits through a server action -/
  serverAction : Bool
  /-- Whether an API route is generated -/
  apiRoute : Bool
  routing : Routing
  successMessage : String
  errorMessage : String
  link : Option Link
deriving DecidableEq, Repr

namespace Form

def defaultWidth : String := "w-full max-w-md"

def defaultSuccessMessage : String := "Form submitted successfully!"

def defaultErrorMessage : String :=
  "An error occurred while submitting the form. Please try again."

/-- A form without fields and buttons, as a new form starts out. -/
def named (name : String) : Form where
  name := name
  fields := []
  buttons := []
  submitIndex := 1
  layout := .stacked
  horizontal := some .center
  vertical := some .center
  width := defaultWidth
  loadingState := true
  errorDisplay := true
  theme := none
  storage := none
  serverAction := false
  apiRoute := false
  routing := .app
  successMessage := defaultSuccessMessage
  errorMessage := defaultErrorMessage
  link := none

/-- Whether the button at a position, counted from one, submits the form. -/
def isSubmit (form : Form) (position : Nat) : Bool := position == form.submitIndex

def hasTextarea (form : Form) : Bool := form.fields.any fun f => f.type = .textarea

def hasSingleLineInput (form : Form) : Bool := form.fields.any fun f => f.type ≠ .textarea

end Form

end FormScaffold
