import FormScaffold.Yaml.Scalar
import FormScaffold.Yaml.Tag

/-!
# Tokens of a YAML text

A text is cut into tokens.  Block collections, which the text shows by indentation alone, get
tokens where they begin and end.  What stands before a colon is known to be a key only when the
colon is reached: until then its place is kept, and the tokens that announce a key are put there
afterwards.
-/

namespace FormScaffold.Yaml

inductive Token where
  | version (major minor : Nat)
  | handle (handle meaning : List Char)
  | documentStart | documentEnd
  | blockSequence | blockMapping | blockEnd
  | openSequence | closeSequence | openMapping | closeMapping
  | item | comma | key | value
  | reference (name : List Char)
  | anchor (name : List Char)
  | tag (tag : Tag)
  | scalar (style : Style) (text : List Char)
deriving DecidableEq, Repr

/-- A place where a key may have begun. -/
structure Candidate where
  /-- How many tokens stand before it -/
  number : Nat
  position : Position
  /-- Whether nothing but a key may begin there -/
  required : Bool

/-- A key without a mark must end on its line, and within so many characters. -/
def Candidate.reach : Nat := 1024

/-- Whether a key that began at a candidate may still end at a position. -/
def Candidate.reaches (candidate : Candidate) (p : Position) : Bool :=
  p.line ≤ candidate.position.line && p.index ≤ candidate.position.index + reach

/-- The tokens found so far, and what is open behind them. -/
structure Draft where
  cursor : Cursor
  tokens : Array Token
  /-- The column of the innermost block collection, or `-1` -/
  indent : Int
  /-- The columns of the block collections around it -/
  outerIndents : List Int
  /-- Whether a key may begin here -/
  keyAllowed : Bool
  /-- Where a key may have begun at the innermost level of brackets -/
  candidate : Option Candidate
  /-- The same for each level of brackets around it -/
  outerCandidates : List (Option Candidate)

namespace Draft

def ofText (text : List Char) : Draft where
  cursor := ⟨⟨0, 0, 0⟩, text⟩
  tokens := #[]
  indent := -1
  outerIndents := []
  keyAllowed := true
  candidate := none
  outerCandidates := []

/-- Whether the cursor is inside brackets. -/
def inFlow (d : Draft) : Bool := !d.outerCandidates.isEmpty

def column (d : Draft) : Nat := d.cursor.position.column

/-- Adds a token that ends at a cursor. -/
def push (d : Draft) (token : Token) (behind : Cursor) : Draft :=
  { d with tokens := d.tokens.push token, cursor := behind }

/-! ## Indentation -/

/-- Opens a block collection at a column, unless one is open there already.  Its token is put
behind the first tokens. -/
def openBlock (d : Draft) (token : Token) (column number : Nat) : Draft :=
  if d.inFlow || column ≤ d.indent then d
  else
    { d with
      indent := column
      outerIndents := d.indent :: d.outerIndents
      tokens := d.tokens.insertIdxIfInBounds number token }

/-- Opens a block collection at the cursor, where a key may begin. -/
def openHere? (d : Draft) (token : Token) : Option Draft :=
  if d.inFlow then some d
  else if d.keyAllowed then some (d.openBlock token d.column d.tokens.size)
  else none

/-- How many block collections end before a column, and the columns of the others. -/
def endedBefore (column indent : Int) : List Int → Nat × Int × List Int
  | [] => (0, indent, [])
  | outer :: outers =>
    if column < indent then
      let (count, rest) := endedBefore column outer outers
      (count + 1, rest)
    else (0, indent, outer :: outers)

/-- Closes the block collections that end before a column. -/
def closeBlocks (d : Draft) (column : Int) : Draft :=
  if d.inFlow then d
  else
    let (count, indent, outerIndents) := endedBefore column d.indent d.outerIndents
    { d with indent, outerIndents, tokens := d.tokens ++ Array.replicate count .blockEnd }

/-! ## Keys -/

/-- The candidate, if a key that began there may still end at the cursor.  A required one must. -/
def fresh? (p : Position) (candidate : Option Candidate) : Option (Option Candidate) :=
  match candidate with
  | none => some none
  | some c => if c.reaches p then some (some c) else if c.required then none else some none

/-- Drops the candidates that are out of reach. -/
def dropStale? (d : Draft) : Option Draft := do
  let p := d.cursor.position
  return { d with
    candidate := ← fresh? p d.candidate
    outerCandidates := ← d.outerCandidates.mapM (fresh? p) }

/-- Drops the innermost candidate, which must not be required. -/
def dropCandidate? (d : Draft) : Option Draft :=
  match d.candidate with
  | some c => if c.required then none else some { d with candidate := none }
  | none => some d

/-- Notes that a key may begin at the cursor, if one is allowed there. -/
def noteCandidate? (d : Draft) : Option Draft :=
  if d.keyAllowed then
    let required := !d.inFlow && d.indent = d.column
    d.dropCandidate?.map fun d =>
      { d with candidate := some ⟨d.tokens.size, d.cursor.position, required⟩ }
  else some d

/-! ## Tokens -/

/-- Skips white space, comments and line ends; outside brackets a key may begin on a new line. -/
def skipGaps (inFlow keyAllowed inComment : Bool) (p : Position) : List Char → Bool × Cursor
  | [] => (keyAllowed, ⟨p, []⟩)
  | c :: cs =>
    if isBreak c then skipGaps inFlow (keyAllowed || !inFlow) false (p.after c) cs
    else if inComment || c = ' ' || (c = '\t' && (inFlow || !keyAllowed)) then
      skipGaps inFlow keyAllowed inComment (p.after c) cs
    else if c = '#' then skipGaps inFlow keyAllowed true (p.after c) cs
    else (keyAllowed, ⟨p, c :: cs⟩)

/-- One of the numbers of a version. -/
def versionNumber? (cursor : Cursor) : Option (Nat × Cursor) :=
  let (digits, behind) := cursor.takeWhile Char.isDigit
  if 9 < digits.length then none else (Text.readDigits? 10 digits).map (·, behind)

/-- Takes a part of a line by a function on its characters. -/
def scanWith? {α : Type} (scan? : List Char → Option (α × List Char)) (cursor : Cursor) :
    Option (α × Cursor) :=
  (scan? cursor.rest).map fun (a, rest) => (a, cursor.drop (cursor.rest.length - rest.length))

/-- The handle of a directive and what it stands for. -/
def handleDirective? (cursor : Cursor) : Option (Token × Cursor) := do
  let (handle, cursor) ← scanWith? Tag.scanHandle? cursor.skipSpaces
  if handle ≠ ['!'] ∧ ¬Tag.isClosed handle then none else
  if cursor.rest.head?.any isSpace then
    let (meaning, cursor) ← scanWith? (Tag.scanPart? true []) cursor.skipSpaces
    if atGap cursor.rest then some (.handle handle meaning, cursor) else none
  else none

/-- The directive at the cursor, behind its mark. -/
def directive? (cursor : Cursor) : Option (Token × Cursor) := do
  let (name, cursor) := cursor.takeWhile isNameChar
  if !atGap cursor.rest then none else
  let (token, cursor) ←
    (if name = "YAML".toList then do
      let (major, cursor) ← versionNumber? cursor.skipSpaces
      if cursor.rest.head? ≠ some '.' then none else
      let (minor, cursor) ← versionNumber? (cursor.drop 1)
      some (.version major minor, cursor)
    else if name = "TAG".toList then handleDirective? cursor
    else none)
  return (token, ← cursor.skipRestOfLine?)

/-- A directive or a document mark: it ends all block collections. -/
def pushMark? (d : Draft) (mark : Option (Token × Cursor)) : Option Draft := do
  let d ← (d.closeBlocks (-1)).dropCandidate?
  let (token, behind) ← mark
  return { d.push token behind with keyAllowed := false }

/-- A bracket that opens a collection. -/
def pushOpening? (d : Draft) (token : Token) : Option Draft := do
  let d ← d.noteCandidate?
  return { d.push token (d.cursor.drop 1) with
    keyAllowed := true
    candidate := none
    outerCandidates := d.candidate :: d.outerCandidates }

/-- A bracket that closes a collection. -/
def pushClosing? (d : Draft) (token : Token) : Option Draft := do
  let d ← d.dropCandidate?
  let d := { d.push token (d.cursor.drop 1) with keyAllowed := false }
  match d.outerCandidates with
  | [] => return d
  | outer :: outers => return { d with candidate := outer, outerCandidates := outers }

def pushComma? (d : Draft) : Option Draft := do
  let d ← d.dropCandidate?
  return { d.push .comma (d.cursor.drop 1) with keyAllowed := true }

def pushItem? (d : Draft) : Option Draft := do
  let d ← (← d.openHere? .blockSequence).dropCandidate?
  return { d.push .item (d.cursor.drop 1) with keyAllowed := true }

def pushKey? (d : Draft) : Option Draft := do
  let d ← (← d.openHere? .blockMapping).dropCandidate?
  return { d.push .key (d.cursor.drop 1) with keyAllowed := !d.inFlow }

/-- A colon: what began at the candidate is its key, else the key is empty. -/
def pushValue? (d : Draft) : Option Draft := do
  match d.candidate with
  | some c =>
    let d := { d with tokens := d.tokens.insertIdxIfInBounds c.number .key, candidate := none }
    let d := d.openBlock .blockMapping c.position.column c.number
    return { d.push .value (d.cursor.drop 1) with keyAllowed := false }
  | none =>
    let d ← d.openHere? .blockMapping
    return { d.push .value (d.cursor.drop 1) with keyAllowed := !d.inFlow }

/-- A token with which a key may begin. -/
def pushNode? (d : Draft) (node : Option (Token × Cursor)) : Option Draft := do
  let d ← d.noteCandidate?
  let (token, behind) ← node
  return { d.push token behind with keyAllowed := false }

/-- An anchor or a reference by its name, behind its mark. -/
def named? (token : List Char → Token) (cursor : Cursor) : Option (Token × Cursor) :=
  let (name, behind) := cursor.takeWhile isNameChar
  let ends := atGap behind.rest || behind.rest.head?.any "?:,]\x7d%@\x60".toList.contains
  if name.isEmpty || !ends then none else some (token name, behind)

def tag? (inFlow : Bool) (cursor : Cursor) : Option (Token × Cursor) :=
  (scanWith? (Tag.scan? inFlow) cursor).map fun (tag, behind) => (.tag tag, behind)

/-- A scalar between quotes, behind the first one. -/
def quoted? (scan? : Folding → Position → List Char → Option (Folding × Cursor))
    (cursor : Cursor) : Option (Token × Cursor) :=
  (scan? .empty cursor.position cursor.rest).map fun (f, behind) =>
    (.scalar .other f.text.reverse, behind)

/-- A scalar written as a block of lines; a key may begin behind it. -/
def pushBlockScalar? (d : Draft) (folded : Bool) : Option Draft := do
  let d ← d.dropCandidate?
  let (text, behind) ← scanBlock? folded d.indent (d.cursor.drop 1)
  let style := if folded then .other else .literal
  return { d.push (.scalar style text) behind with keyAllowed := true }

/-- A plain scalar; a key may begin behind it if it is followed by a line end. -/
def pushPlain? (d : Draft) : Option Draft := do
  let d ← d.noteCandidate?
  let (f, behind) ←
    scanPlain d.inFlow (d.indent + 1).toNat false .empty d.cursor.position d.cursor.rest
  return { d.push (.scalar .plain f.text.reverse) behind with keyAllowed := f.broken }

/-- Whether a plain scalar begins here. -/
def startsPlain (inFlow : Bool) (cs : List Char) : Bool :=
  match cs with
  | [] => false
  | c :: cs =>
    if c = '-' then !cs.head?.any isSpace
    else if c = '?' || c = ':' then !inFlow && !atGap cs
    else !isGap c && !",[]\x7b\x7d#&*!|>\x27\x22%@\x60".toList.contains c

/-- Adds the token at the cursor. -/
def pushToken? (d : Draft) : Option Draft :=
  let inFlow := d.inFlow
  let behind := d.cursor.drop 1
  match d.cursor.rest with
  | [] => none
  | c :: cs =>
    if d.column = 0 && c = '%' then d.pushMark? (directive? behind)
    else if d.column = 0 && atDocumentMark (c :: cs) then
      let token := if c = '-' then .documentStart else .documentEnd
      d.pushMark? (some (token, d.cursor.drop 3))
    else if c = '[' then d.pushOpening? .openSequence
    else if c = '\x7b' then d.pushOpening? .openMapping
    else if c = ']' then d.pushClosing? .closeSequence
    else if c = '\x7d' then d.pushClosing? .closeMapping
    else if c = ',' then d.pushComma?
    else if c = '-' && atGap cs then d.pushItem?
    else if c = '?' && (inFlow || atGap cs) then d.pushKey?
    else if c = ':' && (inFlow || atGap cs) then d.pushValue?
    else if c = '*' then d.pushNode? (named? .reference behind)
    else if c = '&' then d.pushNode? (named? .anchor behind)
    else if c = '!' then d.pushNode? (tag? inFlow d.cursor)
    else if c = '|' && !inFlow then d.pushBlockScalar? false
    else if c = '>' && !inFlow then d.pushBlockScalar? true
    else if c = '\x27' then d.pushNode? (quoted? scanSingle behind)
    else if c = '\x22' then d.pushNode? (quoted? (scanDouble .text) behind)
    else if startsPlain inFlow (c :: cs) then d.pushPlain?
    else none

/-- Adds all tokens.  Each takes at least one character, so that there are at most as many as
characters. -/
def tokens? : Nat → Draft → Option (Array Token)
  | count, d => do
    let (keyAllowed, cursor) :=
      skipGaps d.inFlow d.keyAllowed false d.cursor.position d.cursor.rest
    let d ← { d with keyAllowed, cursor }.dropStale?
    let d := d.closeBlocks d.column
    if cursor.rest.isEmpty then
      let d ← (d.closeBlocks (-1)).dropCandidate?
      return d.tokens
    else match count with
      | 0 => none
      | count + 1 => tokens? count (← d.pushToken?)

end Draft

/-- The tokens of a text. -/
def Token.ofText? (text : List Char) : Option (List Token) :=
  if text.all isAllowed then
    let text := uniformBreaks text
    ((Draft.ofText text).tokens? text.length).map Array.toList
  else none

end FormScaffold.Yaml
