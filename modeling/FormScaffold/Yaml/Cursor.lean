/-!
# Places in a YAML text

A text is read with its line ends made uniform: a carriage return, with or without a line feed
behind it, and the next-line character all count as a line feed.
-/

namespace FormScaffold.Yaml

/-- The characters that a YAML text may hold. -/
def isAllowed (c : Char) : Bool :=
  let n := c.toNat
  n = 0x9 || n = 0xA || n = 0xD || (0x20 ≤ n && n ≤ 0x7E) || n = 0x85 ||
    (0xA0 ≤ n && n ≤ 0xFFFD && n ≠ 0xFEFF) || 0x10000 ≤ n

/-- The text with uniform line ends. -/
def uniformBreaks : List Char → List Char
  | '\r' :: '\n' :: cs => '\n' :: uniformBreaks cs
  | '\r' :: cs => '\n' :: uniformBreaks cs
  | '\u0085' :: cs => '\n' :: uniformBreaks cs
  | c :: cs => c :: uniformBreaks cs
  | [] => []

def isBreak (c : Char) : Bool := c = '\n' || c = '\u2028' || c = '\u2029'

def isSpace (c : Char) : Bool := c = ' ' || c = '\t'

def isGap (c : Char) : Bool := isSpace c || isBreak c

/-- Whether a word ends here: at white space or at the end of the text. -/
def atGap : List Char → Bool
  | [] => true
  | c :: _ => isGap c

/-- Whether a line ends here. -/
def atLineEnd : List Char → Bool
  | [] => true
  | c :: _ => isBreak c

/-- Whether a line begins here with a mark that begins or ends a document. -/
def atDocumentMark : List Char → Bool
  | '-' :: '-' :: '-' :: cs => atGap cs
  | '.' :: '.' :: '.' :: cs => atGap cs
  | _ => false

/-- A character of an anchor or of a handle. -/
def isNameChar (c : Char) : Bool := c.isAlphanum || c = '_' || c = '-'

/-- A place in a text, all counted in characters. -/
structure Position where
  index : Nat
  line : Nat
  column : Nat
deriving Repr

/-- The position behind a character. -/
def Position.after (p : Position) (c : Char) : Position :=
  if isBreak c then ⟨p.index + 1, p.line + 1, 0⟩ else ⟨p.index + 1, p.line, p.column + 1⟩

/-- A place in a text and what comes there. -/
structure Cursor where
  position : Position
  rest : List Char
deriving Repr

namespace Cursor

/-- The cursor behind some characters of the line. -/
def drop (cursor : Cursor) (count : Nat) : Cursor :=
  let p := cursor.position
  ⟨⟨p.index + count, p.line, p.column + count⟩, cursor.rest.drop count⟩

/-- The characters of the line that satisfy a test, and the cursor behind them. -/
def takeWhile (cursor : Cursor) (test : Char → Bool) : List Char × Cursor :=
  let taken := cursor.rest.takeWhile fun c => test c && !isBreak c
  (taken, cursor.drop taken.length)

/-- The cursor behind spaces and tabs. -/
def skipSpaces (cursor : Cursor) : Cursor := (cursor.takeWhile isSpace).2

/-- The line break at the cursor, if there is one, and the cursor behind it. -/
def takeBreak (cursor : Cursor) : List Char × Cursor :=
  match cursor.rest with
  | [] => ([], cursor)
  | c :: cs => if isBreak c then ([c], ⟨cursor.position.after c, cs⟩) else ([], cursor)

/-- The cursor behind the rest of a line that holds at most a comment. -/
def skipRestOfLine? (cursor : Cursor) : Option Cursor :=
  let cursor := cursor.skipSpaces
  let cursor := if cursor.rest.head? = some '#' then (cursor.takeWhile fun _ => true).2 else cursor
  if atLineEnd cursor.rest then some cursor.takeBreak.2 else none

end Cursor

end FormScaffold.Yaml
