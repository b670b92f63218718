import FormScaffold.Json.Reading
import FormScaffold.Json.Printer
import FormScaffold.Snapshot.Format

/-!
# Snapshots as JSON

A record is read from an object, whose unknown keys are skipped, or from a list of the values in
the order of the keys.  A snapshot is written as an object with its keys in order, without the
keys that have no value.
-/

namespace FormScaffold

open Json (Member Problem Value)

/-! ## Records -/

section Records

variable {κ ρ : Type} [DecidableEq κ] [RecordKey κ]

/-- Reads the members of an object after some entries have been found. -/
def readMembers (read : (k : κ) → Value → Except Problem (RecordKey.Datum k))
    (entries : List (RecordKey.Entry κ)) :
    List Member → Except Problem (List (RecordKey.Entry κ))
  | [] => .ok entries
  | (key, v) :: members => do
    let name ← key.decode
    match RecordKey.ofName? (κ := κ) name with
    | none =>
      v.skip
      readMembers read entries members
    | some k =>
      if RecordKey.has k entries then .error (.repeatedKey name) else
      let datum ← read k v
      readMembers read (⟨k, datum⟩ :: entries) members

/-- Reads values in the order of the keys, up to the last of either. -/
def readInOrder (read : (k : κ) → Value → Except Problem (RecordKey.Datum k)) :
    List κ → List Value → Except Problem (List (RecordKey.Entry κ))
  | k :: ks, v :: vs => do
    let datum ← read k v
    let entries ← readInOrder read ks vs
    return ⟨k, datum⟩ :: entries
  | _, _ => .ok []

/-- What is wrong behind the values of a record that has all of them. -/
def surplusProblem? (count keys : Nat) (ending : Json.Ending) : Option Problem :=
  if keys < count then some .trailingCharacters else
  match ending with
  | .closed => none
  | .cut => some .endInList
  | .afterComma => some .trailingComma
  | _ => some .trailingCharacters

/-- Reads a record, called by its title in messages. -/
def readRecord (title : String) (read : (k : κ) → Value → Except Problem (RecordKey.Datum k))
    (build : ((k : κ) → Option (RecordKey.Datum k)) → Except κ ρ) (v : Value) :
    Except Problem ρ :=
  let keys := RecordKey.all (κ := κ)
  match v with
  | .object members ending => do
    let entries ← readMembers read [] members
    Json.orElseOk ending.objectProblem?
    match build fun k => RecordKey.find? k entries with
    | .ok record => .ok record
    | .error k => .error (.missingKey (RecordKey.name k))
  | .list items ending => do
    let entries ← readInOrder read keys items
    Json.orElseOk
      (if items.length < keys.length then ending.listProblem?
        else surplusProblem? items.length keys.length ending)
    match build fun k => RecordKey.find? k entries with
    | .ok record => .ok record
    | .error k =>
      .error (.tooShort (keys.idxOf k)
        (title ++ " with " ++ Text.decimal keys.length ++ " elements"))
  | _ => .error (v.mismatch title)

end Records

namespace Snapshot

/-! ## Reading -/

def Field.ofJson : Value → Except Problem Field :=
  readRecord "struct SnapshotField" (fun (_ : FieldKey) v => v.readText) Field.ofValues

def Button.ofJson : Value → Except Problem Button :=
  readRecord "struct SnapshotButton" (fun (_ : ButtonKey) v => v.readText) Button.ofValues

/-- Reads a value of a kind. -/
def ValueKind.ofJson : (kind : ValueKind) → Value → Except Problem kind.Datum
  | .text => Value.readText
  | .flag => Value.readFlag
  | .count => Value.readCount
  | .fields => Value.readList Field.ofJson
  | .buttons => Value.readList Button.ofJson
  | .optional kind => Value.readOptional kind.ofJson

def ofJson : Value → Except Problem Snapshot :=
  readRecord "struct SnapshotForm" (fun (k : FormKey) v => k.kind.ofJson v) ofValues

/-- Reads a snapshot from a text. -/
def ofText (text : String) : Except Problem Snapshot := (Json.Document.ofText text).read ofJson

/-! ## Writing -/

/-- A list of members as an object. -/
def object (members : List (String × Value)) : Value :=
  .object (members.map fun (key, v) => (.ofString key, v)) .closed

def list (items : List Value) : Value := .list items .closed

/-- A text, or `null`. -/
def optionalCount (n : Option Nat) : Value :=
  match n with
  | some n => Value.ofNat n
  | none => .null

/-- A member that is left out if it has no value. -/
def ifPresent {α : Type} (key : String) (write : α → Value) (a : Option α) :
    List (String × Value) :=
  match a with
  | some a => [(key, write a)]
  | none => []

def Field.toJson (field : Field) : Value :=
  object
    [ ("name", .ofString field.name),
      ("label", .ofString field.label),
      ("placeholder", .ofString field.placeholder),
      ("type", .ofString field.type),
      ("validation", .ofString field.validation),
      ("errorMessage", .ofString field.errorMessage) ]

def Button.toJson (button : Button) : Value :=
  object [("name", .ofString button.name), ("variant", .ofString button.variant)]

def toJson (snapshot : Snapshot) : Value :=
  object
    ([ ("formName", .ofString snapshot.formName),
       ("inputCount", optionalCount snapshot.inputCount),
       ("buttonCount", optionalCount snapshot.buttonCount),
       ("submitButtonIndex", .ofNat snapshot.submitButtonIndex),
       ("addLink", .bool snapshot.addLink) ] ++
      ifPresent "linkText" .ofString snapshot.linkText ++
      ifPresent "linkHref" .ofString snapshot.linkHref ++
      [ ("routerType", .ofString snapshot.routerType),
        ("useServerActions", .bool snapshot.useServerActions),
        ("createApiRoute", .bool snapshot.createApiRoute) ] ++
      ifPresent "useTypeScript" .bool snapshot.useTypeScript ++
      [("formStyle", .ofString snapshot.formStyle)] ++
      ifPresent "horizontalAlignment" .ofString snapshot.horizontalAlignment ++
      ifPresent "verticalAlignment" .ofString snapshot.verticalAlignment ++
      [ ("formWidth", .ofString snapshot.formWidth),
        ("useCustomColors", .bool snapshot.useCustomColors) ] ++
      ifPresent "primaryColor" .ofString snapshot.primaryColor ++
      ifPresent "secondaryColor" .ofString snapshot.secondaryColor ++
      [ ("addLoadingState", .bool snapshot.addLoadingState),
        ("addErrorHandling", .bool snapshot.addErrorHandling),
        ("successMessage", .ofString snapshot.successMessage),
        ("errorMessage", .ofString snapshot.errorMessage),
        ("includeDatabase", .bool snapshot.includeDatabase) ] ++
      ifPresent "databaseName" .ofString snapshot.databaseName ++
      ifPresent "collectionName" .ofString snapshot.collectionName ++
      [ ("inputFields", list (snapshot.inputFields.map Field.toJson)),
        ("buttons", list (snapshot.buttons.map Button.toJson)) ] ++
      ifPresent "generatorVersion" .ofString snapshot.generatorVersion)

/-- The text of the snapshot that is saved with a form. -/
def textOf (form : Form) : String := (ofForm form).stamped.toJson.toText

end Snapshot

end FormScaffold
