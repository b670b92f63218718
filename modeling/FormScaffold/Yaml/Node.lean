import FormScaffold.Yaml.Token

/-!
# The document of a YAML text

A text holds one document: a tree of scalars, sequences and mappings, in which a reference stands
for a node with an anchor.  Anchors are kept as numbers: an anchor has the number of different
names that stand before it, and a number belongs to the last node that has it.
-/

namespace FormScaffold.Yaml

inductive Node where
  | scalar (anchor : Option Nat) (tag : Option (List Char)) (style : Style) (text : List Char)
  | sequence (anchor : Option Nat) (items : List Node)
  | mapping (anchor : Option Nat) (entries : List (Node × Node))
  | reference (anchor : Nat)
deriving Repr

namespace Node

/-- A node that is not written. -/
def empty : Node := .scalar none none .plain []

/-! ## Building from tokens -/

/-- The tokens that are left, and what is known from those before them. -/
structure Rest where
  tokens : List Token
  handles : List (List Char × List Char)
  /-- The names of anchors with the numbers they stand for, the latest first -/
  names : List (List Char × Nat)

abbrev Building := StateT Rest Option

def next? : Building (Option Token) := fun rest => some (rest.tokens.head?, rest)

def skip : Building Unit := fun rest => some ((), { rest with tokens := rest.tokens.tail })

/-- Takes the next token, which must be the given one. -/
def take (token : Token) : Building Unit := fun rest =>
  match rest.tokens with
  | t :: tokens => if t = token then some ((), { rest with tokens }) else none
  | [] => none

/-- Takes the next token if it is the given one. -/
def takeIf (token : Token) : Building Bool := fun rest =>
  match rest.tokens with
  | t :: tokens => if t = token then some (true, { rest with tokens }) else some (false, rest)
  | [] => some (false, rest)

/-- Whether the next token is one of some. -/
def isAt (tokens : List Token) : Building Bool := fun rest =>
  some (rest.tokens.head?.any tokens.contains, rest)

/-- Gives a name the number of its anchor. -/
def define (name : List Char) : Building Nat := fun rest =>
  let number := rest.names.length
  let others := rest.names.filter fun (n, _) => n ≠ name
  some (number, { rest with names := (name, number) :: others })

def referenceOf (name : List Char) : Building Node := fun rest =>
  (rest.names.lookup name).map fun number => (.reference number, rest)

/-- The full text of a tag. -/
def resolve (tag : Tag) : Building (List Char) := fun rest =>
  (tag.resolve? rest.handles).map (·, rest)

/-- The anchor and the tag before a node, in either order. -/
def properties : Building (Option Nat × Option (List Char)) := do
  match ← next? with
  | some (.anchor name) =>
    skip
    match ← next? with
    | some (.tag tag) =>
      skip
      let tag ← resolve tag
      return (some (← define name), some tag)
    | _ => return (some (← define name), none)
  | some (.tag tag) =>
    skip
    match ← next? with
    | some (.anchor name) =>
      skip
      let tag ← resolve tag
      return (some (← define name), some tag)
    | _ => return (none, some (← resolve tag))
  | _ => return (none, none)

/-- Where a node stands: in brackets, in a block collection, or behind a key or a value mark of a
block mapping, where the items of a sequence need no indentation. -/
inductive Place where
  | flow | block | blockEntry
deriving DecidableEq

/-- A scalar with the tag that stands for no tag counts as one without. -/
def scalarTag (tag : Option (List Char)) : Option (List Char) :=
  if tag = some ['!'] then none else tag

mutual

/-- The node at the front of the tokens.  A node takes a token, or ends at the next one: the number
that bounds the depth of calls need not exceed a multiple of the number of tokens. -/
def build (place : Place) : Nat → Building Node
  | 0 => failure
  | fuel + 1 => do
    match ← next? with
    | some (.reference name) =>
      skip
      referenceOf name
    | _ =>
      let (anchor, tag) ← properties
      match ← next?, place with
      | some .item, .blockEntry => return .sequence anchor (← looseItems fuel)
      | some (.scalar style text), _ =>
        skip
        return .scalar anchor (scalarTag tag) style text
      | some .openSequence, _ =>
        skip
        return .sequence anchor (← flowItems true fuel)
      | some .openMapping, _ =>
        skip
        return .mapping anchor (← flowEntries true fuel)
      | some .blockSequence, .block | some .blockSequence, .blockEntry =>
        skip
        return .sequence anchor (← blockItems fuel)
      | some .blockMapping, .block | some .blockMapping, .blockEntry =>
        skip
        return .mapping anchor (← blockEntries fuel)
      | _, _ =>
        if anchor.isSome || tag.isSome then return .scalar anchor tag .plain [] else failure

/-- A node that may be left out before some tokens. -/
def buildUnless (ends : List Token) (place : Place) : Nat → Building Node
  | 0 => failure
  | fuel + 1 => do if ← isAt ends then return empty else build place fuel

/-- The items of a block sequence. -/
def blockItems : Nat → Building (List Node)
  | 0 => failure
  | fuel + 1 => do
    if ← takeIf .item then
      let node ← buildUnless [.item, .blockEnd] .block fuel
      return node :: (← blockItems fuel)
    else
      take .blockEnd
      return []

/-- The items of a block sequence that is not indented. -/
def looseItems : Nat → Building (List Node)
  | 0 => failure
  | fuel + 1 => do
    if ← takeIf .item then
      let node ← buildUnless [.item, .key, .value, .blockEnd] .block fuel
      return node :: (← looseItems fuel)
    else return []

/-- The entries of a block mapping. -/
def blockEntries : Nat → Building (List (Node × Node))
  | 0 => failure
  | fuel + 1 => do
    if ← takeIf .key then
      let key ← buildUnless [.key, .value, .blockEnd] .blockEntry fuel
      let node ←
        (do if ← takeIf .value then buildUnless [.key, .value, .blockEnd] .blockEntry fuel
            else return empty)
      return (key, node) :: (← blockEntries fuel)
    else
      take .blockEnd
      return []

/-- The items of a sequence in brackets.  An item with a key is a mapping of one entry; if the key
is left out, whatever stands there is passed over. -/
def flowItems (first : Bool) : Nat → Building (List Node)
  | 0 => failure
  | fuel + 1 => do
    if ← takeIf .closeSequence then return []
    if !first then take .comma
    if ← takeIf .key then
      let key ←
        (do if ← isAt [.value, .comma, .closeSequence] then
              skip
              return empty
            else build .flow fuel)
      let node ←
        (do if ← takeIf .value then buildUnless [.comma, .closeSequence] .flow fuel
            else return empty)
      return .mapping none [(key, node)] :: (← flowItems false fuel)
    else if ← takeIf .closeSequence then return []
    else
      let node ← build .flow fuel
      return node :: (← flowItems false fuel)

/-- The entries of a mapping in brackets. -/
def flowEntries (first : Bool) : Nat → Building (List (Node × Node))
  | 0 => failure
  | fuel + 1 => do
    if ← takeIf .closeMapping then return []
    if !first then take .comma
    if ← takeIf .key then
      let key ← buildUnless [.value, .comma, .closeMapping] .flow fuel
      let node ←
        (do if ← takeIf .value then buildUnless [.comma, .closeMapping] .flow fuel
            else return empty)
      return (key, node) :: (← flowEntries false fuel)
    else if ← takeIf .closeMapping then return []
    else
      let key ← build .flow fuel
      return (key, empty) :: (← flowEntries false fuel)

end

/-! ## Documents -/

/-- The directives before a document: a version at most once, and each handle at most once. -/
def directives (versioned : Bool) (handles : List (List Char × List Char)) :
    List Token → Option (List (List Char × List Char) × List Token)
  | .version major minor :: tokens =>
    if versioned || major ≠ 1 || (minor ≠ 1 && minor ≠ 2) then none
    else directives true handles tokens
  | .handle handle meaning :: tokens =>
    if (handles.lookup handle).isSome then none
    else directives versioned ((handle, meaning) :: handles) tokens
  | tokens => some (handles, tokens)

/-- The node of the document, behind its start if that is marked. -/
def document (marked : Bool) : Building Node := do
  let rest ← get
  let absent := match rest.tokens with
    | [] => true
    | t :: _ =>
      match t with
      | .version _ _ | .handle _ _ | .documentStart | .documentEnd => true
      | _ => false
  if marked && absent then return empty
  else build .block (4 * rest.tokens.length + 4)

/-- The document of a text without one is empty; nothing may follow a document but the marks of
its end. -/
def ofTokens? (tokens : List Token) : Option Node := do
  let (handles, rest) ← directives false [] tokens
  let marked := rest.head? = some .documentStart
  if !marked && tokens.length ≠ rest.length then none else
  if tokens.isEmpty then return empty
  let rest := if marked then rest.tail else rest
  let (node, rest) ← (document marked).run ⟨rest, handles, []⟩
  if rest.tokens.all (· = .documentEnd) then some node else none

/-- The document of a text. -/
def ofText? (text : String) : Option Node := (Token.ofText? text.toList).bind ofTokens?

/-! ## Anchors -/

mutual

/-- The nodes with a number as anchor, in their order. -/
def anchored (number : Nat) : Node → List Node
  | .scalar anchor tag style text =>
    if anchor = some number then [.scalar anchor tag style text] else []
  | .sequence anchor items =>
    (if anchor = some number then [.sequence anchor items] else []) ++ anchoredItems number items
  | .mapping anchor entries =>
    (if anchor = some number then [.mapping anchor entries] else []) ++
      anchoredEntries number entries
  | .reference _ => []

def anchoredItems (number : Nat) : List Node → List Node
  | [] => []
  | node :: nodes => anchored number node ++ anchoredItems number nodes

def anchoredEntries (number : Nat) : List (Node × Node) → List Node
  | [] => []
  | (key, node) :: entries =>
    anchored number key ++ (anchored number node ++ anchoredEntries number entries)

end

/-- The node that a number belongs to. -/
def find? (document : Node) (number : Nat) : Option Node :=
  (document.anchored number).getLast?

end Node

end FormScaffold.Yaml
