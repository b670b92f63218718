/-!
# Quoting text in generated source

Three ways to put a text into source: as a double-quoted literal, as the value of a markup
attribute, and as the child text of a markup element.  The last two fall back to a literal in
braces when the text holds a character that would end them.
-/

namespace FormScaffold.Quoted

/-- How a character is written inside a literal. -/
def escape : Char → List Char
  | '\x22' => ['\\', '\x22']
  | '\\' => ['\\', '\\']
  | '\n' => ['\\', 'n']
  | '\r' => ['\\', 'r']
  | '\t' => ['\\', 't']
  | c => [c]

/-- The characters of a literal with its quotes. -/
def literalChars (cs : List Char) : List Char := '\x22' :: (cs.flatMap escape ++ ['\x22'])

/-- A double-quoted literal. -/
def literal (s : String) : String := String.ofList (literalChars s.toList)

/-- A text in braces. -/
def braced (s : String) : String := "\x7b" ++ s ++ "\x7d"

/-- A character that a plain attribute value must not hold. -/
def endsAttribute (c : Char) : Bool := ['\x22', '\\', '\n'].contains c

/-- A character that plain child text must not hold. -/
def endsChildText (c : Char) : Bool :=
  ['\x7b', '\x7d', '<', '>', '\x22', '\\', '\n'].contains c

/-- The value of an attribute: plain between double quotes, or a literal in braces. -/
def attributeValue (s : String) : String :=
  if s.toList.any endsAttribute then braced (literal s) else "\x22" ++ s ++ "\x22"

/-- The child text of an element: as it is, or a literal in braces. -/
def childText (s : String) : String :=
  if s.toList.any endsChildText then braced (literal s) else s

end FormScaffold.Quoted
