import FormScaffold.Text.Numeral
import FormScaffold.Yaml.Cursor

/-!
# Tags of a YAML text

A tag is written with a handle, which a directive may give a meaning, or in full between angle
brackets.  Its text is a sequence of octets; those that are no plain characters are written with
a percent sign and two digits, and are kept as the characters with the same numbers.
-/

namespace FormScaffold.Yaml

/-- A tag as it is written.  One that is written in full has no handle. -/
structure Tag where
  handle : List Char
  suffix : List Char
deriving DecidableEq, Repr

namespace Tag

/-- A character of a tag; a few more may stand where the tag is written in full. -/
def isUriChar (full : Bool) (c : Char) : Bool :=
  isNameChar c || ";/?:@&=+$.!~*\x27()".toList.contains c || (full && ",[]".toList.contains c)

/-- How many octets follow the first one of a character. -/
def octetsAfter? (octet : Nat) : Option Nat :=
  if octet < 0x80 then some 0
  else if octet < 0xC0 then none
  else if octet < 0xE0 then some 1
  else if octet < 0xF0 then some 2
  else if octet < 0xF8 then some 3
  else none

/-- How many octets of a character are left after one more, if it may stand here. -/
def octetsLeft? (left octet : Nat) : Option Nat :=
  if left = 0 then octetsAfter? octet
  else if 0x80 ≤ octet ∧ octet < 0xC0 then some (left - 1)
  else none

/-- The octets at the front of a text, and what follows them. -/
def scanOctets? (full : Bool) : (left : Nat) → List Char → Option (List Char × List Char)
  | left, '%' :: a :: b :: cs => do
    let octet := 16 * (← Text.digitValue? a) + (← Text.digitValue? b)
    let (octets, rest) ← scanOctets? full (← octetsLeft? left octet) cs
    return (Char.ofNat octet :: octets, rest)
  | left, c :: cs =>
    if 0 < left || c = '%' then none
    else if isUriChar full c then do
      let (octets, rest) ← scanOctets? full 0 cs
      return (c :: octets, rest)
    else some ([], c :: cs)
  | left, [] => if left = 0 then some ([], []) else none

/-- The part of a tag at the front of a text behind a head, and what follows it.  The part and its
head are not both empty, and a zero octet ends the part. -/
def scanPart? (full : Bool) (head cs : List Char) : Option (List Char × List Char) := do
  let (octets, rest) ← scanOctets? full 0 cs
  if head.isEmpty && octets.isEmpty then none
  else some ((head.drop 1 ++ octets).takeWhile (· ≠ '\x00'), rest)

/-- The handle at the front of a text: an exclamation mark, a name, and a second mark if there is
one. -/
def scanHandle? : List Char → Option (List Char × List Char)
  | '!' :: cs =>
    let name := cs.takeWhile isNameChar
    match cs.drop name.length with
    | '!' :: rest => some ('!' :: name ++ ['!'], rest)
    | rest => some ('!' :: name, rest)
  | _ => none

/-- Whether a handle ends with a second mark. -/
def isClosed (handle : List Char) : Bool := 1 < handle.length && handle.getLast? = some '!'

/-- The tag at the front of a text, and what follows it. -/
def scan? (inFlow : Bool) (cs : List Char) : Option (Tag × List Char) := do
  let (tag, rest) ← (match cs with
    | '!' :: '<' :: cs => do
      let (suffix, rest) ← scanPart? true [] cs
      match rest with
      | '>' :: rest => some (⟨[], suffix⟩, rest)
      | _ => none
    | _ => do
      let (handle, rest) ← scanHandle? cs
      if isClosed handle then
        let (suffix, rest) ← scanPart? false [] rest
        some (⟨handle, suffix⟩, rest)
      else
        let (suffix, rest) ← scanPart? false handle rest
        some (if suffix.isEmpty then ⟨[], ['!']⟩ else ⟨['!'], suffix⟩, rest))
  if atGap rest || (inFlow && rest.head? = some ',') then some (tag, rest) else none

/-! ## Meaning -/

/-- What the handles mean that need no directive. -/
def commonHandles : List (List Char × List Char) :=
  [(['!'], ['!']), (['!', '!'], "tag:yaml.org,2002:".toList)]

/-- The full text of a tag, if its handle has a meaning. -/
def resolve? (handles : List (List Char × List Char)) (tag : Tag) : Option (List Char) :=
  if tag.handle.isEmpty then some tag.suffix
  else ((handles ++ commonHandles).lookup tag.handle).map (· ++ tag.suffix)

/-- The full texts of the tags that matter to a reader. -/
def null : List Char := "tag:yaml.org,2002:null".toList
def bool : List Char := "tag:yaml.org,2002:bool".toList
def int : List Char := "tag:yaml.org,2002:int".toList

end Tag

end FormScaffold.Yaml
