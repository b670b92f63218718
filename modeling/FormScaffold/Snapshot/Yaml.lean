import FormScaffold.Snapshot.Format
import FormScaffold.Yaml.Reading

/-!
# Snapshots as YAML

A record is read from a mapping, whose unknown keys are passed over; a known key must not be
repeated.
-/

namespace FormScaffold

open Yaml (Node Reading)

section Records

variable {κ ρ : Type} [DecidableEq κ] [RecordKey κ]

/-- Reads the entries of a mapping after some have been found. -/
def readEntries (read : (k : κ) → Node → Reading (RecordKey.Datum k))
    (found : List (RecordKey.Entry κ)) :
    List (Node × Node) → Reading (List (RecordKey.Entry κ))
  | [] => pure found
  | (key, node) :: entries => do
    match RecordKey.ofName? (κ := κ) (← key.readText) with
    | none => readEntries read found entries
    | some k =>
      if RecordKey.has k found then failure
      else
        let datum ← read k node
        readEntries read (⟨k, datum⟩ :: found) entries

/-- Reads a record. -/
def readMapping (read : (k : κ) → Node → Reading (RecordKey.Datum k))
    (build : ((k : κ) → Option (RecordKey.Datum k)) → Except κ ρ) (node : Node) :
    Reading ρ := do
  let found ← readEntries read [] (← node.readEntries)
  match build fun k => RecordKey.find? k found with
  | .ok record => return record
  | .error _ => failure

end Records

namespace Snapshot

def Field.ofYaml : Node → Reading Field :=
  readMapping (fun (_ : FieldKey) node => node.readText) Field.ofValues

def Button.ofYaml : Node → Reading Button :=
  readMapping (fun (_ : ButtonKey) node => node.readText) Button.ofValues

/-- Reads a value of a kind. -/
def ValueKind.ofYaml : (kind : ValueKind) → Node → Reading kind.Datum
  | .text => Node.readText
  | .flag => Node.readFlag
  | .count => Node.readCount
  | .fields => Node.readList Field.ofYaml
  | .buttons => Node.readList Button.ofYaml
  | .optional kind => Node.readOptional kind.ofYaml

def ofYaml : Node → Reading Snapshot :=
  readMapping (fun (k : FormKey) node => k.kind.ofYaml node) ofValues

/-- Reads a snapshot from a text, if it is well formed and has all that a snapshot needs. -/
def ofYamlText? (text : String) : Option Snapshot := do
  let document ← Node.ofText? text
  (ofYaml document).run? document

end Snapshot

end FormScaffold
