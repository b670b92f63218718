import FormScaffold.Dialogue.Basic
import FormScaffold.Form.Valid
import FormScaffold.Text.Numeral

/-!
# Asking for a form

A new form is asked for question by question.  Most texts are trimmed, and each question refuses
what would make its part of the form unusable.
-/

namespace FormScaffold

/-! ## Kinds of questions -/

/-- The number that a text denotes, if it is at least one. -/
def positiveCount? (s : String) : Option Nat :=
  (Text.readNumeral? Text.word64 (Text.trimChars s.toList)).filter (0 < ·)

namespace Dialogue

/-- Refuses the texts that fail a test, with a message. -/
def refuseUnless (test : String → Bool) (message s : String) : Option String :=
  if test s then none else some message

/-- Asks for a text that passes a test when it is trimmed. -/
def trimmed (prompt hint : String) (refusal? : String → Option String) : Dialogue String := do
  let s ← text
    { prompt, hint, fallback := none, required := true, refusal? := fun s => refusal? (Text.trim s) }
  return Text.trim s

/-- Asks for a text that is not blank. -/
def filled (prompt message : String) : Dialogue String :=
  trimmed prompt "" (refuseUnless (fun s => ¬Text.AllBlank s) message)

/-- Asks for a text that may be empty. -/
def optional (prompt hint : String) : Dialogue String :=
  text { prompt, hint, fallback := none, required := false, refusal? := fun _ => none }

/-- Asks for a text, with another one in place of the empty text. -/
def withFallback (prompt fallback : String) (refusal? : String → Option String) :
    Dialogue String :=
  text { prompt, hint := "", fallback := some fallback, required := true, refusal? }

/-- Asks for a number from one up to a bound, if there is one; one in place of the empty text. -/
def count (prompt message : String) (bound : Option Nat) : Dialogue Nat := do
  let fits := fun n => bound.all (n ≤ ·)
  let s ← withFallback prompt "1" (refuseUnless (fun s => (positiveCount? s).any fits) message)
  return (positiveCount? s).getD 1

def color (prompt : String) : Dialogue String :=
  trimmed prompt "" (refuseUnless isHexColor "Please enter a valid hex color code")

end Dialogue

open Dialogue

/-! ## Parts of a form -/

def Link.question : Dialogue Link := do
  let text ← filled "Link text" "Link text cannot be empty"
  let target ← filled "Link target" "Link target cannot be empty"
  return { text, target }

def Theme.question : Dialogue Theme := do
  let primary ← color "Primary color (e.g. #000000)"
  let secondary ← color "Secondary color (e.g. #ffffff)"
  return { primary, secondary }

def Storage.question : Dialogue Storage := do
  let database ← filled "Database name" "Database name cannot be empty"
  let collection ← filled "Collection name" "Collection name cannot be empty"
  return { database, collection }

/-- Asks for a part only if it is wanted. -/
def ifWanted {α : Type} (prompt : String) (question : Dialogue α) : Dialogue (Option α) := do
  if ← yesNo prompt false then
    let a ← question
    return some a
  else return none

/-- Why a name cannot be that of a further field. -/
def fieldNameRefusal? (taken : List Field) (name : String) : Option String :=
  if !isIdentifier name then some "Field name must be a valid identifier"
  else if taken.any fun f => f.name = name then some "Another field already uses this name"
  else none

/-- Asks for a field behind some others. -/
def Field.question (taken : List Field) : Dialogue Field := do
  say (.step ("Input field " ++ Text.decimal (taken.length + 1)))
  let name ← trimmed "Name" "" (fieldNameRefusal? taken)
  let label ← filled "Label" "Field label cannot be empty"
  let placeholder ← optional "Placeholder" ""
  let type ← choose "Type" InputType.all InputType.name .text
  let rules ← optional "Validation rules" "required,min:3,max:50"
  let message ← optional "Custom error message (blank for default)" ""
  return {
    name, label, placeholder, type
    rules := Text.trim rules
    message := if Text.AllBlank message then none else some (Text.trim message) }

/-- Asks for a button behind a number of others. -/
def Button.question (taken : Nat) : Dialogue Button := do
  say (.step ("Button " ++ Text.decimal (taken + 1)))
  let text ← filled "Text" "Button text cannot be empty"
  let variant ← choose "Variant" ButtonVariant.all ButtonVariant.name .default
  return { text, variant }

namespace Form

/-- Asks for a number of further fields. -/
def fieldQuestions : Nat → List Field → Dialogue (List Field)
  | 0, taken => return taken
  | left + 1, taken => do
    let field ← Field.question taken
    fieldQuestions left (taken ++ [field])

/-- Asks for a number of further buttons. -/
def buttonQuestions : Nat → List Button → Dialogue (List Button)
  | 0, taken => return taken
  | left + 1, taken => do
    let button ← Button.question taken.length
    buttonQuestions left (taken ++ [button])

/-- Asks for a form. -/
def questions : Dialogue Form := do
  let name ← trimmed "What is the name of your form?" "Contact"
    (refuseUnless isIdentifier "Form name must be a valid identifier")
  let positive := "Please enter a number greater than 0"
  let fieldCount ← count "How many input fields do you want in your form?" positive none
  let buttonCount ← count "How many buttons do you want in your form?" positive none
  let submitIndex ← count "Which button should be the submit button?"
    "Please enter a valid button index" (some buttonCount)
  let link ← ifWanted "Do you want to add a link to another page?" Link.question
  let routing ← choose "Which router do you want to use?" Routing.all Routing.name .app
  let serverAction ←
    if routing = .app then yesNo "Do you want to use Server Actions?" true else pure false
  let wantsRoute ←
    if serverAction then pure false
    else yesNo "Do you want to create an API route for this form?" true
  let layout ← choose "Choose a form style" Layout.all Layout.name .stacked
  let horizontal ← choose "Horizontal alignment" HorizontalAlign.all HorizontalAlign.name .center
  let vertical ← choose "Vertical alignment" VerticalAlign.all VerticalAlign.name .center
  let width ← withFallback "Responsive width classes" defaultWidth
    (refuseUnless isClassList "Width must be plain class names")
  let theme ← ifWanted "Do you want to use custom colors?" Theme.question
  let loadingState ← yesNo "Do you want to add a loading state to the form?" true
  let errorDisplay ← yesNo "Do you want to add error handling to the form?" true
  let successMessage ← withFallback "Success message" defaultSuccessMessage fun _ => none
  let errorMessage ← withFallback "Error message" defaultErrorMessage fun _ => none
  let storage ← ifWanted "Do you want to include MongoDB database integration?" Storage.question
  let needsRoute := storage.isSome && !serverAction && !wantsRoute
  if needsRoute then
    say (.info "The form saves through its API route, so the route will be created")
  let fields ← fieldQuestions fieldCount []
  let buttons ← buttonQuestions buttonCount []
  return {
    name, fields, buttons, submitIndex, layout, width, loadingState, errorDisplay, theme, storage
    serverAction, routing, successMessage, errorMessage, link
    horizontal := some horizontal
    vertical := some vertical
    apiRoute := wantsRoute || needsRoute }

end Form

end FormScaffold
