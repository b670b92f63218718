import FormScaffold.Form.Valid
import FormScaffold.Json.Value
import FormScaffold.Number.Binary64
import FormScaffold.Text.Shown

/-!
# What can be wrong with a JSON text

The problems that a reader reports: the text ends too early, it is not JSON, or it is JSON of
another shape than the reader expects.
-/

namespace FormScaffold.Json

/-- What a value is, in a message about its type. -/
inductive Kind where
  | null
  | bool (b : Bool)
  | integer (negative : Bool) (n : Nat)
  | float (negative : Bool) (x : Binary64)
  | string (s : String)
  | list
  | object
deriving DecidableEq, Repr

inductive Problem where
  /-- The text ends where a value, an object, a list or a string goes on -/
  | endInValue | endInObject | endInList | endInString
  | expectedValue
  | expectedWord
  | expectedColon
  | expectedCommaOrBrace
  | expectedCommaOrBracket
  | keyMustBeString
  | trailingComma
  | trailingCharacters
  | invalidNumber
  | numberOutOfRange
  | invalidEscape
  | controlCharacter
  | loneSurrogate
  | unfinishedSurrogate
  | missingKey (key : String)
  | repeatedKey (key : String)
  | wrongType (found : Kind) (expected : String)
  | negativeCount (n : Nat)
  | tooShort (length : Nat) (expected : String)
  | refused (violation : Violation)
deriving DecidableEq, Repr

/-- The three kinds of problems. -/
inductive Category where
  | ending | syntaxError | data
deriving DecidableEq, Repr

namespace Kind

/-- How a value is called in a message. -/
def text : Kind → String
  | null => "null"
  | bool b => "boolean `" ++ (if b then "true" else "false") ++ "`"
  | integer negative n => "integer `" ++ (if negative then "-" else "") ++ Text.decimal n ++ "`"
  | float negative x => "floating point `" ++ (if negative then "-" else "") ++ x.text ++ "`"
  | string s => "string " ++ Text.shown s
  | list => "sequence"
  | object => "map"

end Kind

namespace Problem

def category : Problem → Category
  | endInValue | endInObject | endInList | endInString => .ending
  | missingKey _ | repeatedKey _ | wrongType _ _ | negativeCount _ | tooShort _ _ | refused _ =>
    .data
  | _ => .syntaxError

def message : Problem → String
  | endInValue => "EOF while parsing a value"
  | endInObject => "EOF while parsing an object"
  | endInList => "EOF while parsing a list"
  | endInString => "EOF while parsing a string"
  | expectedValue => "expected value"
  | expectedWord => "expected ident"
  | expectedColon => "expected `:`"
  | expectedCommaOrBrace => "expected `,` or `\x7d`"
  | expectedCommaOrBracket => "expected `,` or `]`"
  | keyMustBeString => "key must be a string"
  | trailingComma => "trailing comma"
  | trailingCharacters => "trailing characters"
  | invalidNumber => "invalid number"
  | numberOutOfRange => "number out of range"
  | invalidEscape => "invalid escape"
  | controlCharacter => "control character (\\u0000-\\u001F) found while parsing a string"
  | loneSurrogate => "lone leading surrogate in hex escape"
  | unfinishedSurrogate => "unexpected end of hex escape"
  | missingKey key => "missing field `" ++ key ++ "`"
  | repeatedKey key => "duplicate field `" ++ key ++ "`"
  | wrongType found expected => "invalid type: " ++ found.text ++ ", expected " ++ expected
  | negativeCount n => "invalid value: integer `-" ++ Text.decimal n ++ "`, expected usize"
  | tooShort length expected =>
    "invalid length " ++ Text.decimal length ++ ", expected " ++ expected
  | refused violation => violation.message

end Problem

end FormScaffold.Json
