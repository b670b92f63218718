import FormScaffold.Json.Value

/-!
# Writing JSON values

A value is written over several lines, each item and each member on a line of its own, indented
by two spaces for every list and object around it.  Empty lists and objects stay on one line.
-/

namespace FormScaffold.Json

/-- The four hexadecimal digits of a code unit. -/
def hexDigits (n : Nat) : List Char :=
  [n / 4096 % 16, n / 256 % 16, n / 16 % 16, n % 16].map Nat.digitChar

/-- How a character is written inside a string. -/
def escapeChar : Char → List Char
  | '\x22' => ['\\', '\x22']
  | '\\' => ['\\', '\\']
  | '\x08' => ['\\', 'b']
  | '\x0c' => ['\\', 'f']
  | '\n' => ['\\', 'n']
  | '\r' => ['\\', 'r']
  | '\t' => ['\\', 't']
  | c => if c.toNat < 0x20 then '\\' :: 'u' :: hexDigits c.toNat else [c]

def StringUnit.render : StringUnit → List Char
  | .char c => escapeChar c
  | .code n => '\\' :: 'u' :: hexDigits n

/-- A string with its quotes. -/
def RawString.render (s : RawString) : List Char :=
  '\x22' :: (s.units.flatMap StringUnit.render ++ ['\x22'])

def Number.render (n : Number) : List Char :=
  (if n.negative then ['-'] else []) ++ n.whole ++
    (if n.fraction.isEmpty then [] else '.' :: n.fraction) ++
    (match n.exponent with
      | none => []
      | some (negative, digits) => 'e' :: ((if negative then ['-'] else []) ++ digits))

/-- A line feed and the indentation of the next line. -/
def newLine (depth : Nat) : List Char := '\n' :: List.replicate (2 * depth) ' '

mutual

/-- The text of a value inside some lists and objects. -/
def Value.render (depth : Nat) : Value → List Char
  | .null => "null".toList
  | .bool true => "true".toList
  | .bool false => "false".toList
  | .number n => n.render
  | .string s => s.render
  | .list [] _ => ['[', ']']
  | .list (v :: vs) _ =>
    '[' :: (newLine (depth + 1) ++ Value.render (depth + 1) v ++ renderItems (depth + 1) vs ++
      newLine depth ++ [']'])
  | .object [] _ => ['\x7b', '\x7d']
  | .object ((key, v) :: members) _ =>
    '\x7b' :: (newLine (depth + 1) ++ key.render ++ ": ".toList ++ Value.render (depth + 1) v ++
      renderMembers (depth + 1) members ++ newLine depth ++ ['\x7d'])
  | .broken _ => []

/-- The text of the items after the first. -/
def renderItems (depth : Nat) : List Value → List Char
  | [] => []
  | v :: vs => ',' :: (newLine depth ++ Value.render depth v ++ renderItems depth vs)

/-- The text of the members after the first. -/
def renderMembers (depth : Nat) : List (RawString × Value) → List Char
  | [] => []
  | (key, v) :: members =>
    ',' :: (newLine depth ++ key.render ++ ": ".toList ++ Value.render depth v ++
      renderMembers depth members)

end

/-- The text of a value, with a line feed at the end. -/
def Value.toText (v : Value) : String := String.ofList (v.render 0 ++ ['\n'])

end FormScaffold.Json
