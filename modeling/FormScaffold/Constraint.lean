import FormScaffold.Form.Basic
import FormScaffold.Text.Split
import FormScaffold.Text.Numeral
import FormScaffold.Text.Quoted

/-!
# Constraints of a field

A field's rule text, such as `required,min:3,max:50`, is cut at commas.  Every token that is not
blank becomes either one constraint or one warning; the constraints, in order, are the checks of
the field's schema entry.
-/

namespace FormScaffold

/-- What a constraint checks. -/
inductive ConstraintKind where
  | required | min | max | email | integer
deriving DecidableEq, Repr

namespace ConstraintKind

/-- The kinds that a rule text can name. -/
def named : List ConstraintKind := [required, min, max, email]

/-- The word for a kind in a rule text. -/
def rule : ConstraintKind → String
  | required => "required"
  | min => "min"
  | max => "max"
  | email => "email"
  | integer => "integer"

def ofRule? (word : String) : Option ConstraintKind := named.find? (·.rule = word)

/-- Whether the rule needs a length. -/
def takesLength : ConstraintKind → Bool
  | min | max => true
  | _ => false

/-- The message of a check when the field has none of its own. -/
def message : ConstraintKind → Option Nat → String
  | required, _ => "This field is required"
  | min, some n => "Minimum " ++ Text.decimal n ++ " characters required"
  | max, some n => "Maximum " ++ Text.decimal n ++ " characters allowed"
  | min, none | max, none => "Invalid length"
  | email, _ => "Invalid email address"
  | integer, _ => "Must be a valid integer"

end ConstraintKind

/-- One check of a schema entry. -/
structure Constraint where
  kind : ConstraintKind
  /-- The length, for the two kinds that need one -/
  length : Option Nat
  message : String
deriving DecidableEq, Repr

/-- A token of a rule text that became no constraint. -/
inductive RuleWarning where
  | unknownRule (rule : String)
  | noLength (rule value : String)
deriving DecidableEq, Repr

namespace Constraint

/-- A constraint with the field's own message, or the message of its kind. -/
def ofKind (kind : ConstraintKind) (length : Option Nat) (own : Option String) : Constraint :=
  { kind, length, message := own.getD (kind.message length) }

/-- The schema method of a constraint, with the dot in front. -/
def method (c : Constraint) : String :=
  match c.kind, c.length with
  | .required, _ => ".nonempty(" ++ Quoted.literal c.message ++ ")"
  | .min, some n => ".min(" ++ Text.decimal n ++ ", " ++ Quoted.literal c.message ++ ")"
  | .max, some n => ".max(" ++ Text.decimal n ++ ", " ++ Quoted.literal c.message ++ ")"
  | .min, none | .max, none => ""
  | .email, _ => ".email(" ++ Quoted.literal c.message ++ ")"
  | .integer, _ => ".int(" ++ Quoted.literal c.message ++ ")"

/-- The schema expression of a chain of constraints. -/
def schemaExpression (chain : List Constraint) : String :=
  (if chain.any fun c => c.kind = .integer then "z.number()" else "z.string()") ++
    String.join (chain.map method)

end Constraint

/-! ## Reading a rule text -/

/-- The tokens of a rule text: trimmed, without the empty ones. -/
def ruleTokens (rules : String) : List (List Char) :=
  ((Text.split (· = ',') rules.toList).map Text.trimChars).filter fun token => !token.isEmpty

/-- The word before the first colon of a token, and the value after it if there is a colon. -/
def tokenParts (token : List Char) : String × Option (List Char) :=
  match Text.cutFirst (· = ':') token with
  | some (word, value) => (String.ofList (Text.trimChars word), some (Text.trimChars value))
  | none => (String.ofList token, none)

/-- What a token becomes: a constraint, or a warning. -/
def readToken (own : Option String) (token : List Char) : Except RuleWarning Constraint :=
  let (word, value) := tokenParts token
  match ConstraintKind.ofRule? word with
  | none => .error (.unknownRule word)
  | some kind =>
    if kind.takesLength then
      match value.bind (Text.readNumeral? Text.word32) with
      | some n => .ok (.ofKind kind (some n) own)
      | none => .error (.noLength word (String.ofList (value.getD [])))
    else .ok (.ofKind kind none own)

namespace Field

/-- What the tokens of the field's rule text become.  A number field has no use for them. -/
def readRules (field : Field) : List (Except RuleWarning Constraint) :=
  if field.type = .number then [] else (ruleTokens field.rules).map (readToken field.message)

/-- The constraint that the type of the field adds at the end. -/
def typeConstraints (field : Field) : List Constraint :=
  match field.type with
  | .number => [.ofKind .integer none field.message]
  | .email => [.ofKind .email none field.message]
  | _ => []

/-- The checks of the field, in order. -/
def constraints (field : Field) : List Constraint :=
  field.readRules.filterMap Except.toOption ++ field.typeConstraints

/-- The warnings about the field's rule text, in order. -/
def ruleWarnings (field : Field) : List RuleWarning :=
  field.readRules.filterMap fun
    | .ok _ => none
    | .error warning => some warning

end Field

end FormScaffold
