import FormScaffold.Json.Token

/-!
# JSON values

A text denotes a value.  Where a text is not JSON, its value is *broken* there: what stands before
the fault is kept, and the fault itself says what was found.  So a value can be read in the order
of its text, and the first fault that the reader meets is the one that it reports.
-/

namespace FormScaffold.Json

/-- Why no value stands in some place. -/
inductive Break where
  /-- The text ends here -/
  | missing
  /-- Something that begins no value -/
  | stray
  | word (fault : WordFault)
  | number (fault : NumberFault)
  /-- After a key, the text ends where a colon is expected -/
  | cutColon
  /-- After a key, something else stands where a colon is expected -/
  | noColon
  /-- The key before is faulty -/
  | unread
deriving DecidableEq, Repr

/-- How a list or an object ends. -/
inductive Ending where
  | closed
  /-- The text ends where a comma or the end is expected -/
  | cut
  /-- The text ends after a comma -/
  | cutAfterComma
  /-- The closing bracket stands after a comma -/
  | afterComma
  /-- Something else stands where a comma or the end is expected -/
  | noComma
  /-- Something else than a string stands where a key is expected -/
  | noKey
  /-- The last item is broken -/
  | unreached
deriving DecidableEq, Repr

inductive Value where
  | null
  | bool (b : Bool)
  | number (n : Number)
  | string (s : RawString)
  | list (items : List Value) (ending : Ending)
  | object (members : List (RawString × Value)) (ending : Ending)
  | broken (b : Break)
deriving Repr, Inhabited

/-- A key and the value behind it. -/
abbrev Member := RawString × Value

/-- A text as a whole: its value, and whether anything stands behind it. -/
structure Document where
  value : Value
  trailing : Bool
deriving Repr

/-- A string without escapes. -/
def RawString.ofString (s : String) : RawString := ⟨s.toList.map .char, none⟩

def Value.ofString (s : String) : Value := .string (.ofString s)

def Value.ofNat (n : Nat) : Value := .number ⟨false, Nat.toDigits 10 n, [], none⟩

/-! ## From tokens to values -/

/-- A list or an object around the value that is being read. -/
inductive Frame where
  | item (before : List Value)
  | member (before : List Member) (key : RawString)
deriving Repr

/-- A broken or faulty value inside the lists and objects around it, the innermost first. -/
def enclose : List Frame → Value → Value
  | [], v => v
  | .item before :: outer, v => enclose outer (.list (before ++ [v]) .unreached)
  | .member before key :: outer, v => enclose outer (.object (before ++ [(key, v)]) .unreached)

/-- Where in a text the reader stands. -/
inductive Place where
  /-- A value must come -/
  | value (outer : List Frame)
  /-- After an opening bracket -/
  | listStart (outer : List Frame)
  | afterItem (items : List Value) (outer : List Frame)
  | listComma (items : List Value) (outer : List Frame)
  /-- After an opening brace -/
  | objectStart (outer : List Frame)
  | afterMember (members : List Member) (outer : List Frame)
  | objectComma (members : List Member) (outer : List Frame)
  | afterKey (members : List Member) (key : RawString) (outer : List Frame)
  /-- The value is complete -/
  | complete (v : Value)
  /-- Nothing more is read -/
  | ended (document : Document)
deriving Repr

namespace Place

/-- The place after a value. -/
def afterValue (v : Value) : List Frame → Place
  | [] => complete v
  | .item before :: outer => afterItem (before ++ [v]) outer
  | .member before key :: outer => afterMember (before ++ [(key, v)]) outer

/-- The end of reading at a value that is broken or faulty. -/
def stop (outer : List Frame) (v : Value) : Place := ended ⟨enclose outer v, false⟩

/-- The place after a token that must begin a value. -/
def beginValue (outer : List Frame) : Token → Place
  | .openList => listStart outer
  | .openObject => objectStart outer
  | .word .null none => afterValue .null outer
  | .word .true none => afterValue (.bool true) outer
  | .word .false none => afterValue (.bool false) outer
  | .word _ (some fault) => stop outer (.broken (.word fault))
  | .number n none => afterValue (.number n) outer
  | .number _ (some fault) => stop outer (.broken (.number fault))
  | .string s => if s.fault.isNone then afterValue (.string s) outer else stop outer (.string s)
  | .closeList | .closeObject | .comma | .colon | .stray _ => stop outer (.broken .stray)

/-- The place after a token that must be a key. -/
def beginMember (members : List Member) (outer : List Frame) : Token → Place
  | .string key =>
    if key.fault.isNone then afterKey members key outer
    else stop outer (.object (members ++ [(key, .broken .unread)]) .unreached)
  | _ => stop outer (.object members .noKey)

/-- The place after a token. -/
def next : Place → Token → Place
  | value outer, t => beginValue outer t
  | listStart outer, .closeList => afterValue (.list [] .closed) outer
  | listStart outer, t => beginValue (.item [] :: outer) t
  | afterItem items outer, .closeList => afterValue (.list items .closed) outer
  | afterItem items outer, .comma => listComma items outer
  | afterItem items outer, _ => stop outer (.list items .noComma)
  | listComma items outer, .closeList => stop outer (.list items .afterComma)
  | listComma items outer, t => beginValue (.item items :: outer) t
  | objectStart outer, .closeObject => afterValue (.object [] .closed) outer
  | objectStart outer, t => beginMember [] outer t
  | afterMember members outer, .closeObject => afterValue (.object members .closed) outer
  | afterMember members outer, .comma => objectComma members outer
  | afterMember members outer, _ => stop outer (.object members .noComma)
  | objectComma members outer, .closeObject => stop outer (.object members .afterComma)
  | objectComma members outer, t => beginMember members outer t
  | afterKey members key outer, .colon => value (.member members key :: outer)
  | afterKey members key outer, _ =>
    stop outer (.object (members ++ [(key, .broken .noColon)]) .unreached)
  | complete v, _ => ended ⟨v, true⟩
  | ended document, _ => ended document

/-- What the text is when it ends at a place. -/
def finish : Place → Document
  | value outer => ⟨enclose outer (.broken .missing), false⟩
  | listStart outer => ⟨enclose outer (.list [] .cut), false⟩
  | afterItem items outer => ⟨enclose outer (.list items .cut), false⟩
  | listComma items outer => ⟨enclose outer (.list items .cutAfterComma), false⟩
  | objectStart outer => ⟨enclose outer (.object [] .cut), false⟩
  | afterMember members outer => ⟨enclose outer (.object members .cut), false⟩
  | objectComma members outer => ⟨enclose outer (.object members .cutAfterComma), false⟩
  | afterKey members key outer =>
    ⟨enclose outer (.object (members ++ [(key, .broken .cutColon)]) .unreached), false⟩
  | complete v => ⟨v, false⟩
  | ended document => document

end Place

/-- The document that tokens make up. -/
def Document.ofTokens (tokens : List Token) : Document :=
  (tokens.foldl Place.next (.value [])).finish

/-- The document that a text denotes. -/
def Document.ofText (text : String) : Document := .ofTokens (tokenize text.toList)

end FormScaffold.Json
