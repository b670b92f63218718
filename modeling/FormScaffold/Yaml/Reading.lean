import FormScaffold.Yaml.Node

/-!
# Reading values from a YAML document

Values are read by the type that is expected: a plain scalar may be a text, a flag, a number or
nothing at all.  References are followed where they stand, but not without a limit: a document of
few nodes may denote a very large tree.
-/

namespace FormScaffold.Yaml

/-- Reading a document, with the number of references that may still be followed. -/
abbrev Reading := ReaderT Node (StateT Nat Option)

mutual

/-- How many marks it takes to write a node: one for a scalar or a reference, and two for a
collection besides its nodes. -/
def Node.size : Node → Nat
  | .scalar _ _ _ _ | .reference _ => 1
  | .sequence _ items => 2 + sizeOfItems items
  | .mapping _ entries => 2 + sizeOfEntries entries

def Node.sizeOfItems : List Node → Nat
  | [] => 0
  | node :: nodes => node.size + sizeOfItems nodes

def Node.sizeOfEntries : List (Node × Node) → Nat
  | [] => 0
  | (key, node) :: entries => key.size + node.size + sizeOfEntries entries

end

/-- How many references may be followed in a document. -/
def Node.followLimit (document : Node) : Nat := 100 * document.size

namespace Reading

/-- Reads a document. -/
def run? {α : Type} (reading : Reading α) (document : Node) : Option α :=
  (reading document document.followLimit).map (·.1)

/-- The node that a reference stands for. -/
def follow : Node → Reading Node
  | .reference number => fun document left =>
    match left with
    | 0 => none
    | left + 1 => (document.find? number).map (·, left)
  | node => pure node

end Reading

open Reading

/-- A scalar that may be a number or a flag: a plain one, or a literal block tagged as such. -/
def isTyped (expected : List Char) (tag : Option (List Char)) (style : Style) : Bool :=
  style = .plain || (style = .literal && tag = some expected)

def flag? (text : List Char) : Option Bool :=
  if ["true", "True", "TRUE"].contains (String.ofList text) then some true
  else if ["false", "False", "FALSE"].contains (String.ofList text) then some false
  else none

/-- A number with an optional plus sign, in one of four bases.  Decimal digits do not begin with a
zero that is not the only one. -/
def count? (text : List Char) : Option Nat :=
  let unsigned := match text with
    | '+' :: rest => rest
    | _ => text
  let value? := match unsigned with
    | '0' :: 'x' :: digits => Text.readDigits? 16 digits
    | '0' :: 'o' :: digits => Text.readDigits? 8 digits
    | '0' :: 'b' :: digits => Text.readDigits? 2 digits
    | ['0'] => some 0
    | '0' :: _ => none
    | digits => Text.readDigits? 10 digits
  value?.filter (· ≤ Text.word64)

/-- A scalar that stands for no value. -/
def isNull (text : List Char) : Bool := ["~", "null", "Null", "NULL"].contains (String.ofList text)

namespace Node

def readText (node : Node) : Reading String := do
  match ← follow node with
  | .scalar _ _ _ text => return String.ofList text
  | _ => failure

def readFlag (node : Node) : Reading Bool := do
  match ← follow node with
  | .scalar _ tag style text =>
    if isTyped Tag.bool tag style then fun _ left => (flag? text).map (·, left) else failure
  | _ => failure

def readCount (node : Node) : Reading Nat := do
  match ← follow node with
  | .scalar _ tag style text =>
    if isTyped Tag.int tag style then fun _ left => (count? text).map (·, left) else failure
  | _ => failure

/-- Reads a value that may be absent: an empty plain scalar, or one that stands for no value.  A
plain scalar with a tag is absent only if the tag says so. -/
def readOptional {α : Type} (read : Node → Reading α) (node : Node) : Reading (Option α) := do
  let node ← follow node
  let absent ← (match node with
    | .scalar _ none .plain text => pure (text.isEmpty || isNull text)
    | .scalar _ (some tag) .plain text =>
      if tag = Tag.null then (if isNull text then pure true else failure) else pure false
    | _ => pure false)
  if absent then return none else return some (← read node)

/-- Reads a list from a sequence; an empty plain scalar is the empty list. -/
def readList {α : Type} (read : Node → Reading α) (node : Node) : Reading (List α) := do
  match ← follow node with
  | .sequence _ items => items.mapM read
  | .scalar _ _ .plain [] => return []
  | _ => failure

/-- The entries of a mapping. -/
def readEntries (node : Node) : Reading (List (Node × Node)) := do
  match ← follow node with
  | .mapping _ entries => return entries
  | _ => failure

end Node

end FormScaffold.Yaml
