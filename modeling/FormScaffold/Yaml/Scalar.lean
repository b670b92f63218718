import FormScaffold.Text.Numeral
import FormScaffold.Yaml.Cursor

/-!
# Scalars of a YAML text

A scalar is plain, quoted or written as a block of lines.  Where it goes on over several lines,
the line breaks are folded: a single one becomes a space, and of several the first is dropped.
-/

namespace FormScaffold.Yaml

/-- How a scalar is written, as far as it matters to its reader. -/
inductive Style where
  | plain | literal | other
deriving DecidableEq, Repr

/-! ## Folding -/

/-- The text of a scalar so far, and the white space behind it that is not yet part of it.
Characters are kept in reverse. -/
structure Folding where
  text : List Char
  /-- Spaces on the line -/
  spaces : List Char
  /-- Whether a line has ended behind the text -/
  broken : Bool
  /-- The first break behind the text -/
  first : List Char
  /-- The further breaks -/
  more : List Char

namespace Folding

def empty : Folding := ⟨[], [], false, [], []⟩

/-- Takes the white space behind the text into it. -/
def join (f : Folding) : Folding :=
  let gap :=
    if !f.broken then f.spaces
    else if f.first = ['\n'] then (if f.more.isEmpty then [' '] else f.more)
    else f.more ++ f.first
  { empty with text := gap ++ f.text }

def push (f : Folding) (c : Char) : Folding := { f with text := c :: f.text }

/-- A space or a tab: on a further line it is indentation. -/
def space (f : Folding) (c : Char) : Folding :=
  if f.broken then f else { f with spaces := c :: f.spaces }

def lineBreak (f : Folding) (c : Char) : Folding :=
  if f.broken then { f with more := c :: f.more }
  else { f with spaces := [], broken := true, first := [c] }

/-- White space of either kind. -/
def gap (f : Folding) (c : Char) : Folding := if isBreak c then f.lineBreak c else f.space c

end Folding

/-! ## Plain scalars -/

/-- Characters that end a plain scalar, or follow a colon that ends it, inside brackets. -/
def isFlowMark (c : Char) : Bool := [',', '[', ']', '\x7b', '\x7d'].contains c

/-- Whether a plain scalar goes on with a character. -/
inductive PlainStep where
  | goOn | stop | refuse

def plainStep (inFlow : Bool) (c : Char) (cs : List Char) : PlainStep :=
  if inFlow && c = ':' && (match cs with | d :: _ => isFlowMark d || d = '?' | [] => false) then
    .refuse
  else if (c = ':' && atGap cs) || (inFlow && isFlowMark c) then .stop
  else .goOn

/-- Reads on a plain scalar that must be indented by some columns. -/
def scanPlain (inFlow : Bool) (indent : Nat) (inGap : Bool) (f : Folding) (p : Position) :
    List Char → Option (Folding × Cursor)
  | [] => some (f, ⟨p, []⟩)
  | c :: cs =>
    if isGap c then
      if c = '\t' && f.broken && p.column < indent then none
      else scanPlain inFlow indent true (f.gap c) (p.after c) cs
    else if inGap && ((!inFlow && p.column < indent) || c = '#' ||
        (p.column = 0 && atDocumentMark (c :: cs))) then some (f, ⟨p, c :: cs⟩)
    else match plainStep inFlow c cs with
      | .refuse => none
      | .stop => some (f, ⟨p, c :: cs⟩)
      | .goOn => scanPlain inFlow indent false (f.join.push c) (p.after c) cs

/-! ## Quoted scalars -/

/-- What an escape stands for: a character, or a number of hexadecimal digits to come. -/
inductive Escape where
  | char (c : Char)
  | digits (count : Nat)

def escape? : Char → Option Escape
  | '0' => some (.char '\x00')
  | 'a' => some (.char '\x07')
  | 'b' => some (.char '\x08')
  | 't' | '\t' => some (.char '\t')
  | 'n' => some (.char '\n')
  | 'v' => some (.char '\x0b')
  | 'f' => some (.char '\x0c')
  | 'r' => some (.char '\r')
  | 'e' => some (.char '\x1b')
  | ' ' => some (.char ' ')
  | '\x22' => some (.char '\x22')
  | '/' => some (.char '/')
  | '\\' => some (.char '\\')
  | 'N' => some (.char '\u0085')
  | '_' => some (.char '\u00a0')
  | 'L' => some (.char '\u2028')
  | 'P' => some (.char '\u2029')
  | 'x' => some (.digits 2)
  | 'u' => some (.digits 4)
  | 'U' => some (.digits 8)
  | _ => none

/-- The character with a code point, unless it is a surrogate or too large. -/
def char? (n : Nat) : Option Char :=
  if (0xD800 ≤ n ∧ n ≤ 0xDFFF) ∨ 0x10FFFF < n then none else some (Char.ofNat n)

/-- Reads on a scalar between single quotes. -/
def scanSingle (f : Folding) (p : Position) : List Char → Option (Folding × Cursor)
  | [] => none
  | '\x27' :: '\x27' :: cs =>
    scanSingle (f.join.push '\x27') ((p.after '\x27').after '\x27') cs
  | c :: cs =>
    if isGap c then scanSingle (f.gap c) (p.after c) cs
    else if p.column = 0 && atDocumentMark (c :: cs) then none
    else if c = '\x27' then some (f.join, ⟨p.after c, cs⟩)
    else scanSingle (f.join.push c) (p.after c) cs

/-- Inside double quotes: plain text, or behind a backslash, or in the digits of an escape. -/
inductive DoubleMode where
  | text
  | escape
  | digits (left value : Nat)

/-- Reads on a scalar between double quotes. -/
def scanDouble (mode : DoubleMode) (f : Folding) (p : Position) :
    List Char → Option (Folding × Cursor)
  | [] => none
  | c :: cs =>
    match mode with
    | .text =>
      if isGap c then scanDouble .text (f.gap c) (p.after c) cs
      else if p.column = 0 && atDocumentMark (c :: cs) then none
      else if c = '\x22' then some (f.join, ⟨p.after c, cs⟩)
      else if c = '\\' then scanDouble .escape f.join (p.after c) cs
      else scanDouble .text (f.join.push c) (p.after c) cs
    | .escape =>
      if isBreak c then scanDouble .text { f with broken := true } (p.after c) cs
      else match escape? c with
        | some (.char d) => scanDouble .text (f.push d) (p.after c) cs
        | some (.digits count) => scanDouble (.digits count 0) f (p.after c) cs
        | none => none
    | .digits left value =>
      match Text.digitValue? c with
      | none => none
      | some d =>
        let value := value * 16 + d
        if left ≤ 1 then
          match char? value with
          | some d => scanDouble .text (f.push d) (p.after c) cs
          | none => none
        else scanDouble (.digits (left - 1) value) f (p.after c) cs

/-! ## Block scalars -/

/-- What happens to the line breaks at the end of a block. -/
inductive Chomping where
  | strip | clip | keep
deriving DecidableEq

/-- The header of a block: chomping and indentation, in either order. -/
def blockHeader? (cursor : Cursor) : Option (Chomping × Nat × Cursor) :=
  let chomping? : Cursor → Option (Chomping × Cursor) := fun cursor =>
    match cursor.rest with
    | '+' :: _ => some (.keep, cursor.drop 1)
    | '-' :: _ => some (.strip, cursor.drop 1)
    | _ => none
  let indent? : Cursor → Option (Nat × Cursor) := fun cursor =>
    match cursor.rest with
    | c :: _ =>
      if c = '0' then none
      else if c.isDigit then some (c.toNat - 0x30, cursor.drop 1)
      else some (0, cursor)
    | [] => some (0, cursor)
  match chomping? cursor with
  | some (chomping, cursor) => (indent? cursor).map fun (indent, cursor) => (chomping, indent, cursor)
  | none => do
    let (indent, cursor) ← indent? cursor
    if indent = 0 then return (.clip, 0, cursor)
    match chomping? cursor with
    | some (chomping, cursor) => return (chomping, indent, cursor)
    | none => return (.clip, indent, cursor)

/-- Skips the indentation and the empty lines before a line of a block.  The indentation is the
widest so far if it is not yet known.  The breaks are kept in reverse. -/
def blockBreaks? (indent widest : Nat) (breaks : List Char) (p : Position) :
    List Char → Option (List Char × Nat × Cursor)
  | [] => some (breaks, max widest p.column, ⟨p, []⟩)
  | c :: cs =>
    if c = ' ' && (indent = 0 || p.column < indent) then
      blockBreaks? indent widest breaks (p.after c) cs
    else if c = '\t' && (indent = 0 || p.column < indent) then none
    else if isBreak c then
      blockBreaks? indent (max widest p.column) (c :: breaks) (p.after c) cs
    else some (breaks, max widest p.column, ⟨p, c :: cs⟩)

/-- A block so far.  Characters are kept in reverse. -/
structure Block where
  text : List Char
  /-- The break at the end of the last line -/
  first : List Char
  /-- The breaks of empty lines after it -/
  more : List Char
  /-- Whether the last line began with white space -/
  spaced : Bool

/-- The block with the breaks behind its last line taken into it, before a further line. -/
def Block.join (b : Block) (folded spaced : Bool) : List Char :=
  if folded && b.first = ['\n'] && !b.spaced && !spaced then
    b.more ++ ((if b.more.isEmpty then [' '] else []) ++ b.text)
  else b.more ++ (b.first ++ b.text)

/-- Reads the lines of a block.  Each takes at least one character, so that there are at most as
many as characters. -/
def scanBlockLines (folded : Bool) (indent : Nat) :
    Nat → Block → Cursor → Option (Block × Cursor)
  | 0, b, cursor => some (b, cursor)
  | lines + 1, b, cursor =>
    if cursor.position.column ≠ indent || cursor.rest.isEmpty then some (b, cursor) else do
    let spaced := match cursor.rest with
      | c :: _ => isSpace c
      | [] => false
    let (line, behind) := cursor.takeWhile fun _ => true
    let (first, behind) := behind.takeBreak
    let (more, _, behind) ← blockBreaks? indent 0 [] behind.position behind.rest
    scanBlockLines folded indent lines
      ⟨line.reverse ++ b.join folded spaced, first, more, spaced⟩ behind

/-- Reads a block behind its mark, inside a collection that is indented by `parent`, or by `-1`
at the top. -/
def scanBlock? (folded : Bool) (parent : Int) (cursor : Cursor) :
    Option (List Char × Cursor) := do
  let (chomping, increment, cursor) ← blockHeader? cursor
  let cursor ← cursor.skipRestOfLine?
  let indent := if increment = 0 then 0 else (max parent 0).toNat + increment
  let (more, widest, cursor) ← blockBreaks? indent 0 [] cursor.position cursor.rest
  let indent := if indent = 0 then max widest (max (parent + 1) 1).toNat else indent
  let (b, cursor) ← scanBlockLines folded indent cursor.rest.length ⟨[], [], more, false⟩ cursor
  let text := if chomping = .strip then b.text else b.first ++ b.text
  let text := if chomping = .keep then b.more ++ text else text
  return (text.reverse, cursor)

end FormScaffold.Yaml
