import FormScaffold.Proofs.Snapshot.Record

/-!
# Snapshots as JSON

A snapshot is read back from its own text, whatever its texts are, as long as its counts fit into
64 bits (`Fits.ofText_toText`).
-/

namespace FormScaffold.Snapshot

open Json (Value)
open RecordKey (Datum entriesOf)

/-! ## Written snapshots -/

theorem written_of_mem_ifPresent {α : Type} {key : String} {write : α → Value}
    (h : ∀ a, (write a).Written) {a : Option α} : ∀ m ∈ ifPresent key write a, m.2.Written := by
  intro m hm
  cases a with
  | none => exact absurd hm List.not_mem_nil
  | some a =>
    rw [List.mem_singleton.mp hm]
    exact h a

theorem written_optionalCount (n : Option Nat) : (optionalCount n).Written := by
  cases n with
  | none => exact .null
  | some n => exact .ofNat n

theorem Field.written_toJson (field : Field) : field.toJson.Written := by
  refine .object ?_
  simp [Value.Written.ofString]

theorem Button.written_toJson (button : Button) : button.toJson.Written := by
  refine .object ?_
  simp [Value.Written.ofString]

theorem written_list {α : Type} {write : α → Value} (h : ∀ a, (write a).Written) (as : List α) :
    (list (as.map write)).Written := by
  refine .list fun v hv => ?_
  obtain ⟨a, -, rfl⟩ := List.mem_map.mp hv
  exact h a

theorem written_toJson (snapshot : Snapshot) : snapshot.toJson.Written := by
  refine .object ?_
  simp only [List.forall_mem_append, List.forall_mem_cons, List.not_mem_nil, false_imp_iff,
    implies_true, and_true, true_and, written_optionalCount, Value.Written.ofString,
    Value.Written.ofNat, Value.Written.bool, written_list Field.written_toJson,
    written_list Button.written_toJson]
  and_intros
  all_goals first
    | exact written_of_mem_ifPresent .ofString
    | exact written_of_mem_ifPresent .bool

/-! ## Keys -/

instance : RecordKey.Lawful FieldKey where
  nodup_all := by decide
  mem_all k := by cases k <;> decide
  ofName?_name k := by cases k <;> rfl

instance : RecordKey.Lawful ButtonKey where
  nodup_all := by decide
  mem_all k := by cases k <;> decide
  ofName?_name k := by cases k <;> rfl

instance : RecordKey.Lawful FormKey where
  nodup_all := by decide
  mem_all k := by cases k <;> decide
  ofName?_name k := by cases k <;> rfl

/-! ## Fields and buttons -/

/-- What is saved of a field under a key. -/
def Field.datum? (field : Field) : FieldKey → Option String
  | .name => some field.name
  | .label => some field.label
  | .placeholder => some field.placeholder
  | .type => some field.type
  | .validation => some field.validation
  | .errorMessage => some field.errorMessage

theorem Field.toJson_eq (field : Field) :
    field.toJson =
      object (writtenMembers (fun (_ : FieldKey) s => .ofString s) (entriesOf field.datum?)) :=
  rfl

theorem Field.ofJson_toJson (field : Field) : Field.ofJson field.toJson.reread = .ok field := by
  rw [Field.toJson_eq]
  exact readRecord_reread (fun _ s _ => Json.readText_reread_ofString s) rfl

/-- What is saved of a button under a key. -/
def Button.datum? (button : Button) : ButtonKey → Option String
  | .name => some button.name
  | .variant => some button.variant

theorem Button.toJson_eq (button : Button) :
    button.toJson =
      object (writtenMembers (fun (_ : ButtonKey) s => .ofString s) (entriesOf button.datum?)) :=
  rfl

theorem Button.ofJson_toJson (button : Button) :
    Button.ofJson button.toJson.reread = .ok button := by
  rw [Button.toJson_eq]
  exact readRecord_reread (fun _ s _ => Json.readText_reread_ofString s) rfl

/-! ## Forms -/

/-- How a value of a kind is written. -/
def ValueKind.toJson : (kind : ValueKind) → kind.Datum → Value
  | .text => Value.ofString
  | .flag => .bool
  | .count => Value.ofNat
  | .fields => fun fields => list (fields.map Field.toJson)
  | .buttons => fun buttons => list (buttons.map Button.toJson)
  | .optional kind => fun
    | some a => kind.toJson a
    | none => .null

/-- What is saved of a form under a key, if anything is. -/
def datum? (snapshot : Snapshot) : (k : FormKey) → Option (Datum k)
  | .formName => some snapshot.formName
  | .inputCount => some snapshot.inputCount
  | .buttonCount => some snapshot.buttonCount
  | .submitButtonIndex => some snapshot.submitButtonIndex
  | .addLink => some snapshot.addLink
  | .linkText => snapshot.linkText.map some
  | .linkHref => snapshot.linkHref.map some
  | .routerType => some snapshot.routerType
  | .useServerActions => some snapshot.useServerActions
  | .createApiRoute => some snapshot.createApiRoute
  | .useTypeScript => snapshot.useTypeScript.map some
  | .formStyle => some snapshot.formStyle
  | .horizontalAlignment => snapshot.horizontalAlignment.map some
  | .verticalAlignment => snapshot.verticalAlignment.map some
  | .formWidth => some snapshot.formWidth
  | .useCustomColors => some snapshot.useCustomColors
  | .primaryColor => snapshot.primaryColor.map some
  | .secondaryColor => snapshot.secondaryColor.map some
  | .addLoadingState => some snapshot.addLoadingState
  | .addErrorHandling => some snapshot.addErrorHandling
  | .successMessage => some snapshot.successMessage
  | .errorMessage => some snapshot.errorMessage
  | .includeDatabase => some snapshot.includeDatabase
  | .databaseName => snapshot.databaseName.map some
  | .collectionName => snapshot.collectionName.map some
  | .inputFields => some snapshot.inputFields
  | .buttons => some snapshot.buttons
  | .generatorVersion => snapshot.generatorVersion.map some

theorem optionalCount_eq (n : Option Nat) :
    optionalCount n = ValueKind.toJson (.optional .count) n := by
  cases n <;> rfl

theorem ifPresent_ofString (key : String) (s : Option String) :
    ifPresent key Value.ofString s =
      ifPresent key (ValueKind.toJson (.optional .text)) (s.map some) := by
  cases s <;> rfl

theorem ifPresent_bool (key : String) (b : Option Bool) :
    ifPresent key Value.bool b =
      ifPresent key (ValueKind.toJson (.optional .flag)) (b.map some) := by
  cases b <;> rfl

theorem toJson_eq (snapshot : Snapshot) :
    snapshot.toJson =
      object (writtenMembers (fun (k : FormKey) d => k.kind.toJson d)
        (entriesOf snapshot.datum?)) := by
  rw [writtenMembers_entriesOf]
  simp only [toJson, List.append_assoc, optionalCount_eq, ifPresent_ofString, ifPresent_bool]
  simp only [RecordKey.all, FormKey.all, List.flatMap_cons, List.flatMap_nil, List.append_nil,
    datum?]
  rfl

/-- The snapshot that is put together from its own values. -/
theorem ofValues_datum? (snapshot : Snapshot) : ofValues snapshot.datum? = .ok snapshot := by
  have hoptional : ∀ {α : Type} (a : Option α), (a.map some).getD none = a := by
    intro α a
    cases a <;> rfl
  cases snapshot
  rw [ofValues]
  simp only [datum?]
  congr 2
  all_goals exact hoptional _

/-! ## The round trip -/

/-- The counts of a snapshot fit into 64 bits. -/
structure Fits (snapshot : Snapshot) : Prop where
  inputCount : ∀ n ∈ snapshot.inputCount, n ≤ Text.word64
  buttonCount : ∀ n ∈ snapshot.buttonCount, n ≤ Text.word64
  submitButtonIndex : snapshot.submitButtonIndex ≤ Text.word64

theorem Fits.ofJson_count {n : Option Nat} (h : ∀ m ∈ n, m ≤ Text.word64) :
    (ValueKind.optional .count).ofJson ((ValueKind.optional .count).toJson n).reread = .ok n := by
  cases n with
  | none => rfl
  | some n =>
    show Value.readOptional Value.readCount (Value.ofNat n).reread = _
    rw [Json.readOptional_of_ne_null (by simp [Value.ofNat, Value.reread]),
      Json.readCount_reread_ofNat (h n rfl)]
    rfl

theorem ofJson_optional_text (s : String) :
    (ValueKind.optional .text).ofJson ((ValueKind.optional .text).toJson (some s)).reread =
      .ok (some s) := by
  show Value.readOptional Value.readText (Value.ofString s).reread = _
  rw [Json.readOptional_of_ne_null (by simp [Value.ofString, Value.reread]),
    Json.readText_reread_ofString]
  rfl

/-- Every saved value is read back under its key. -/
theorem Fits.ofJson_datum {snapshot : Snapshot} (h : snapshot.Fits) :
    ∀ (k : FormKey) (d : Datum k), snapshot.datum? k = some d →
      k.kind.ofJson (k.kind.toJson d).reread = .ok d := by
  have hoptional : ∀ {s : Option String} {d : Option String}, s.map some = some d →
      (ValueKind.optional .text).ofJson ((ValueKind.optional .text).toJson d).reread = .ok d := by
    intro s d hd
    obtain ⟨t, -, rfl⟩ := Option.map_eq_some_iff.mp hd
    exact ofJson_optional_text t
  intro k d hd
  cases k
  case inputCount =>
    obtain rfl := Option.some.inj hd
    exact Fits.ofJson_count h.inputCount
  case buttonCount =>
    obtain rfl := Option.some.inj hd
    exact Fits.ofJson_count h.buttonCount
  case submitButtonIndex =>
    obtain rfl := Option.some.inj hd
    exact Json.readCount_reread_ofNat h.submitButtonIndex
  case useTypeScript =>
    obtain ⟨b, -, rfl⟩ := Option.map_eq_some_iff.mp hd
    rfl
  case inputFields => exact Json.readList_reread fun field _ => Field.ofJson_toJson field
  case buttons => exact Json.readList_reread fun button _ => Button.ofJson_toJson button
  all_goals first
    | exact Json.readText_reread_ofString d
    | exact hoptional hd
    | rfl

theorem Fits.ofJson_toJson {snapshot : Snapshot} (h : snapshot.Fits) :
    ofJson snapshot.toJson.reread = .ok snapshot := by
  rw [toJson_eq]
  exact readRecord_reread h.ofJson_datum snapshot.ofValues_datum?

/-- A snapshot is read back from its text. -/
theorem Fits.ofText_toText {snapshot : Snapshot} (h : snapshot.Fits) :
    ofText snapshot.toJson.toText = .ok snapshot := by
  rw [ofText, Json.Document.ofText_toText snapshot.written_toJson, Json.Document.read,
    h.ofJson_toJson]
  rfl

end FormScaffold.Snapshot
