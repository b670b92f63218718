import Mathlib.Data.List.Forall2
import FormScaffold.Proofs.Result
import FormScaffold.Proofs.Snapshot.Reloaded

/-!
# Snapshots that are forms

What can be wrong with a snapshot is listed here in the order in which it is read
(`Snapshot.problems`), and what form a snapshot stands for is described key by key
(`Snapshot.Describes`).  A snapshot is read as a form exactly when nothing is wrong with it, and
otherwise the first problem is reported (`Snapshot.toForm_first`).
-/

namespace FormScaffold

/-! ## Known names -/

section Names

variable {α : Type} {all : List α} {name : α → String}

/-- A choice is found by its name and by no other text. -/
theorem find?_name_eq_some_iff (h : ∀ a, all.find? (fun b => name b = name a) = some a)
    {s : String} {a : α} : all.find? (fun b => name b = s) = some a ↔ name a = s := by
  refine ⟨fun hfind => by simpa using List.find?_some hfind, ?_⟩
  rintro rfl
  exact h a

theorem find?_name_eq_none_iff {s : String} :
    all.find? (fun b => name b = s) = none ↔ s ∉ all.map name := by
  simp [List.find?_eq_none]

end Names

/-- The names of input types. -/
def InputType.names : List String :=
  ["text", "email", "password", "number", "date", "tel", "url", "textarea"]

/-- The names of button variants. -/
def ButtonVariant.names : List String :=
  ["default", "destructive", "outline", "secondary", "ghost", "link"]

/-- The names of layouts. -/
def Layout.names : List String := ["Default", "Card", "Inline"]

/-- The names of routing styles. -/
def Routing.names : List String := ["app", "pages"]

theorem InputType.ofName?_eq_some_iff {s : String} {type : InputType} :
    ofName? s = some type ↔ type.name = s := find?_name_eq_some_iff ofName?_name

theorem InputType.ofName?_eq_none_iff {s : String} : ofName? s = none ↔ s ∉ names :=
  find?_name_eq_none_iff

theorem ButtonVariant.ofName?_eq_some_iff {s : String} {variant : ButtonVariant} :
    ofName? s = some variant ↔ variant.name = s := find?_name_eq_some_iff ofName?_name

theorem ButtonVariant.ofName?_eq_none_iff {s : String} : ofName? s = none ↔ s ∉ names :=
  find?_name_eq_none_iff

theorem Routing.ofName?_eq_some_iff {s : String} {routing : Routing} :
    ofName? s = some routing ↔ routing.name = s := find?_name_eq_some_iff ofName?_name

theorem Routing.ofName?_eq_none_iff {s : String} : ofName? s = none ↔ s ∉ names :=
  find?_name_eq_none_iff

theorem HorizontalAlign.ofName?_eq_some_iff {s : String} {align : HorizontalAlign} :
    ofName? s = some align ↔ align.name = s := find?_name_eq_some_iff ofName?_name

theorem VerticalAlign.ofName?_eq_some_iff {s : String} {align : VerticalAlign} :
    ofName? s = some align ↔ align.name = s := find?_name_eq_some_iff ofName?_name

/-- A layout has its name, and the stacked one every text that names none. -/
theorem Layout.name_ofName (s : String) :
    (ofName s).name = s ∨ (s ∉ names ∧ ofName s = stacked) := by
  cases h : all.find? (·.name = s) with
  | some layout =>
    have hname : layout.name = s := by simpa using List.find?_some h
    exact .inl (by rw [ofName, h, Option.getD_some, hname])
  | none =>
    have hnone : s ∉ names := find?_name_eq_none_iff.mp h
    exact .inr ⟨hnone, by rw [ofName, h, Option.getD_none]⟩

namespace Snapshot

/-! ## Problems -/

/-- The keys without a value, if the feature that they belong to is on. -/
def missingValues (on : Bool) (values : List (String × Option String)) : List Violation :=
  if on then (values.filter fun entry => entry.2 = none).map fun entry => .missing entry.1 else []

/-- The items of a list, counted on from an index, that are not called by a known name. -/
def unknownNames {α : Type} (known : List String) (name : α → String)
    (violation : Nat → String → Violation) (index : Nat) (items : List α) : List Violation :=
  ((items.zipIdx index).filter fun item => name item.1 ∉ known).map fun item =>
    violation item.2 (name item.1)

/-- All that is wrong with a snapshot: the routing, then the types of the fields and the variants
of the buttons by their indices, then the values of the link, of the colours and of the database. -/
def problems (snapshot : Snapshot) : List Violation :=
  (if snapshot.routerType ∈ Routing.names then []
    else [.unknownRoutingStyle snapshot.routerType]) ++
  (unknownNames InputType.names Field.type .unknownFieldType 0 snapshot.inputFields ++
  (unknownNames ButtonVariant.names Button.variant .unknownButtonVariant 0 snapshot.buttons ++
  (missingValues snapshot.addLink
    [("linkText", snapshot.linkText), ("linkHref", snapshot.linkHref)] ++
  (missingValues snapshot.useCustomColors
    [("primaryColor", snapshot.primaryColor), ("secondaryColor", snapshot.secondaryColor)] ++
  missingValues snapshot.includeDatabase
    [("databaseName", snapshot.databaseName), ("collectionName", snapshot.collectionName)]))))

/-- A snapshot with nothing wrong: its routing, its types and its variants are known, and every
feature that is on has both of its values. -/
structure Sound (snapshot : Snapshot) : Prop where
  routing : snapshot.routerType = "app" ∨ snapshot.routerType = "pages"
  types : ∀ f ∈ snapshot.inputFields, f.type ∈ InputType.names
  variants : ∀ b ∈ snapshot.buttons, b.variant ∈ ButtonVariant.names
  link : snapshot.addLink = true → snapshot.linkText ≠ none ∧ snapshot.linkHref ≠ none
  colors : snapshot.useCustomColors = true →
    snapshot.primaryColor ≠ none ∧ snapshot.secondaryColor ≠ none
  database : snapshot.includeDatabase = true →
    snapshot.databaseName ≠ none ∧ snapshot.collectionName ≠ none

theorem missingValues_eq_nil_iff {on : Bool} {key key' : String} {value value' : Option String} :
    missingValues on [(key, value), (key', value')] = [] ↔
      (on = true → value ≠ none ∧ value' ≠ none) := by
  cases on <;> simp [missingValues]

theorem unknownNames_eq_nil_iff {α : Type} {known : List String} {name : α → String}
    {violation : Nat → String → Violation} {index : Nat} {items : List α} :
    unknownNames known name violation index items = [] ↔ ∀ a ∈ items, name a ∈ known := by
  rw [unknownNames, List.map_eq_nil_iff, List.filter_eq_nil_iff]
  constructor
  · intro h a ha
    obtain ⟨k, hk⟩ := List.mem_iff_getElem?.mp ha
    have hmem : (a, index + k) ∈ items.zipIdx index := List.mk_add_mem_zipIdx_iff_getElem?.mpr hk
    simpa using h _ hmem
  · rintro h ⟨a, i⟩ ha
    simpa using h a (List.fst_mem_of_mem_zipIdx ha)

theorem unknownNames_cons {α : Type} (known : List String) (name : α → String)
    (violation : Nat → String → Violation) (index : Nat) (a : α) (items : List α) :
    unknownNames known name violation index (a :: items) =
      (if name a ∈ known then [] else [violation index (name a)]) ++
        unknownNames known name violation (index + 1) items := by
  rw [unknownNames, List.zipIdx_cons, List.filter_cons]
  by_cases h : name a ∈ known
  · simp [h, unknownNames]
  · simp [h, unknownNames]

theorem problems_eq_nil_iff {snapshot : Snapshot} : snapshot.problems = [] ↔ snapshot.Sound := by
  have hrouting : (if snapshot.routerType ∈ Routing.names then []
      else [Violation.unknownRoutingStyle snapshot.routerType]) = [] ↔
        snapshot.routerType = "app" ∨ snapshot.routerType = "pages" := by
    have hnames : snapshot.routerType ∈ Routing.names ↔
        snapshot.routerType = "app" ∨ snapshot.routerType = "pages" := List.mem_pair
    rw [← hnames]
    by_cases h : snapshot.routerType ∈ Routing.names <;> simp [h]
  rw [problems, List.append_eq_nil_iff, List.append_eq_nil_iff, List.append_eq_nil_iff,
    List.append_eq_nil_iff, List.append_eq_nil_iff, hrouting, unknownNames_eq_nil_iff,
    unknownNames_eq_nil_iff, missingValues_eq_nil_iff, missingValues_eq_nil_iff,
    missingValues_eq_nil_iff]
  constructor
  · rintro ⟨hrouting, htypes, hvariants, hlink, hcolors, hdatabase⟩
    exact ⟨hrouting, htypes, hvariants, hlink, hcolors, hdatabase⟩
  · rintro ⟨hrouting, htypes, hvariants, hlink, hcolors, hdatabase⟩
    exact ⟨hrouting, htypes, hvariants, hlink, hcolors, hdatabase⟩

/-! ## The form of a snapshot -/

/-- The field that was saved, without its message if that is blank. -/
structure Field.Describes (saved : Field) (field : FormScaffold.Field) : Prop where
  name : field.name = saved.name
  label : field.label = saved.label
  placeholder : field.placeholder = saved.placeholder
  type : field.type.name = saved.type
  rules : field.rules = saved.validation
  message : field.message = if Text.AllBlank saved.errorMessage then none else some saved.errorMessage

/-- The button that was saved. -/
structure Button.Describes (saved : Button) (button : FormScaffold.Button) : Prop where
  text : button.text = saved.name
  variant : button.variant.name = saved.variant

/-- The form that was saved.  Its fields and buttons come in their order, what belongs to a feature
is there only if the feature is on, an unknown layout counts as the stacked one and an unknown
alignment as none. -/
structure Describes (snapshot : Snapshot) (form : Form) : Prop where
  name : form.name = snapshot.formName
  fields : List.Forall₂ Field.Describes snapshot.inputFields form.fields
  buttons : List.Forall₂ Button.Describes snapshot.buttons form.buttons
  submitIndex : form.submitIndex = snapshot.submitButtonIndex
  layout : form.layout.name = snapshot.formStyle ∨
    (snapshot.formStyle ∉ Layout.names ∧ form.layout = .stacked)
  horizontal : ∀ align, form.horizontal = some align ↔
    snapshot.horizontalAlignment = some align.name
  vertical : ∀ align, form.vertical = some align ↔ snapshot.verticalAlignment = some align.name
  width : form.width = snapshot.formWidth
  loadingState : form.loadingState = snapshot.addLoadingState
  errorDisplay : form.errorDisplay = snapshot.addErrorHandling
  theme : ∀ theme, form.theme = some theme ↔ snapshot.useCustomColors = true ∧
    snapshot.primaryColor = some theme.primary ∧ snapshot.secondaryColor = some theme.secondary
  storage : ∀ storage, form.storage = some storage ↔ snapshot.includeDatabase = true ∧
    snapshot.databaseName = some storage.database ∧
    snapshot.collectionName = some storage.collection
  serverAction : form.serverAction = snapshot.useServerActions
  apiRoute : form.apiRoute = snapshot.createApiRoute
  routing : form.routing.name = snapshot.routerType
  successMessage : form.successMessage = snapshot.successMessage
  errorMessage : form.errorMessage = snapshot.errorMessage
  link : ∀ link, form.link = some link ↔ snapshot.addLink = true ∧
    snapshot.linkText = some link.text ∧ snapshot.linkHref = some link.target

/-! ## Steps that report the first problem -/

/-- A step that has some problems: without any it gives what is expected, otherwise it reports the
first of them. -/
def Reports {α : Type} (problems : List Violation) (expected : α → Prop) :
    Except Violation α → Prop
  | .ok a => problems = [] ∧ expected a
  | .error v => problems.head? = some v

namespace Reports

variable {α β : Type} {problems more : List Violation} {expected : α → Prop} {wanted : β → Prop}

theorem ok {a : α} (h : expected a) : Reports [] expected (.ok a) := ⟨rfl, h⟩

/-- The problems of a step come before those of the steps behind it. -/
theorem bind {x : Except Violation α} {f : α → Except Violation β}
    (hx : Reports problems expected x) (hf : ∀ a, expected a → Reports more wanted (f a)) :
    Reports (problems ++ more) wanted (x >>= f) := by
  cases x with
  | ok a =>
    obtain ⟨rfl, ha⟩ := hx
    exact hf a ha
  | error v =>
    show (problems ++ more).head? = some v
    rw [List.head?_append, show problems.head? = some v from hx]
    rfl

/-- A last step that cannot fail. -/
theorem map {x : Except Violation α} {f : α → β} (hx : Reports problems expected x)
    (hf : ∀ a, expected a → wanted (f a)) : Reports problems wanted (x >>= fun a => .ok (f a)) := by
  have h : Reports (problems ++ []) wanted (x >>= fun a => .ok (f a)) :=
    hx.bind fun a ha => ok (hf a ha)
  rwa [List.append_nil] at h

theorem eq_error_iff {x : Except Violation α} (h : Reports problems expected x) {v : Violation} :
    x = .error v ↔ problems.head? = some v := by
  cases x with
  | ok a => simp [h.1]
  | error w => simp [show problems.head? = some w from h]

theorem exists_eq_ok_iff {x : Except Violation α} (h : Reports problems expected x) :
    (∃ a, x = .ok a) ↔ problems = [] := by
  cases x with
  | ok a => simp [h.1]
  | error w =>
    have hne : problems ≠ [] := by
      rintro rfl
      exact absurd h (by simp [Reports])
    simp [hne]

end Reports

/-! ## The steps of reading -/

theorem reports_toRouting (snapshot : Snapshot) :
    Reports (if snapshot.routerType ∈ Routing.names then []
      else [.unknownRoutingStyle snapshot.routerType])
      (fun routing => routing.name = snapshot.routerType) snapshot.toRouting := by
  rw [toRouting]
  cases h : Routing.ofName? snapshot.routerType with
  | none =>
    rw [if_neg (Routing.ofName?_eq_none_iff.mp h)]
    rfl
  | some routing =>
    have hname := Routing.ofName?_eq_some_iff.mp h
    rw [if_pos (by rw [← hname]; cases routing <;> decide)]
    exact .ok hname

theorem Field.reports_toField (index : Nat) (saved : Field) :
    Reports (if saved.type ∈ InputType.names then [] else [.unknownFieldType index saved.type])
      saved.Describes (saved.toField index) := by
  rw [toField]
  cases h : InputType.ofName? saved.type with
  | none =>
    rw [if_neg (InputType.ofName?_eq_none_iff.mp h)]
    rfl
  | some type =>
    have hname := InputType.ofName?_eq_some_iff.mp h
    rw [if_pos (by rw [← hname]; cases type <;> decide)]
    exact .ok ⟨rfl, rfl, rfl, hname, rfl, rfl⟩

theorem Button.reports_toButton (index : Nat) (saved : Button) :
    Reports (if saved.variant ∈ ButtonVariant.names then []
      else [.unknownButtonVariant index saved.variant])
      saved.Describes (saved.toButton index) := by
  rw [toButton]
  cases h : ButtonVariant.ofName? saved.variant with
  | none =>
    rw [if_neg (ButtonVariant.ofName?_eq_none_iff.mp h)]
    rfl
  | some variant =>
    have hname := ButtonVariant.ofName?_eq_some_iff.mp h
    rw [if_pos (by rw [← hname]; cases variant <;> decide)]
    exact .ok ⟨rfl, hname⟩

/-- Of the items of a list, the first one that is not called by a known name is reported. -/
theorem reports_items {α β : Type} {known : List String} {name : α → String}
    {violation : Nat → String → Violation} {describes : α → β → Prop}
    (convert : Nat → α → Except Violation β)
    (convertAll : Nat → List α → Except Violation (List β))
    (hnil : ∀ index, convertAll index [] = .ok [])
    (hcons : ∀ index a items, convertAll index (a :: items) =
      convert index a >>= fun b => convertAll (index + 1) items >>= fun bs => .ok (b :: bs))
    (hitem : ∀ index a, Reports (if name a ∈ known then [] else [violation index (name a)])
      (describes a) (convert index a)) (index : Nat) (items : List α) :
    Reports (unknownNames known name violation index items) (List.Forall₂ describes items)
      (convertAll index items) := by
  induction items generalizing index with
  | nil =>
    rw [hnil]
    exact .ok .nil
  | cons a items ih =>
    rw [hcons, unknownNames_cons]
    exact (hitem index a).bind fun b hb => (ih (index + 1)).map fun bs hbs => .cons hb hbs

theorem reports_toFields (index : Nat) (fields : List Field) :
    Reports (unknownNames InputType.names Field.type .unknownFieldType index fields)
      (List.Forall₂ Field.Describes fields) (toFields index fields) :=
  reports_items (fun index f => f.toField index) toFields (fun _ => rfl) (fun _ _ _ => rfl)
    Field.reports_toField index fields

theorem reports_toButtons (index : Nat) (buttons : List Button) :
    Reports (unknownNames ButtonVariant.names Button.variant .unknownButtonVariant index buttons)
      (List.Forall₂ Button.Describes buttons) (toButtons index buttons) :=
  reports_items (fun index b => b.toButton index) toButtons (fun _ => rfl) (fun _ _ _ => rfl)
    Button.reports_toButton index buttons

/-- A feature that is on needs both of its values, the first one first; one that is off is left
out, whatever its values are. -/
theorem reports_feature {α : Type} (on : Bool) (key key' : String) (value value' : Option String)
    (make : String → String → α) {first second : α → String}
    (hmake : ∀ a text text', make text text' = a ↔ first a = text ∧ second a = text') :
    Reports (missingValues on [(key, value), (key', value')])
      (fun feature => ∀ a, feature = some a ↔
        on = true ∧ value = some (first a) ∧ value' = some (second a))
      (if on then do
        let text ← required key value
        let text' ← required key' value'
        return some (make text text')
      else .ok none) := by
  cases on with
  | false => exact .ok (by simp)
  | true =>
    cases value with
    | none => rfl
    | some text =>
      cases value' with
      | none => rfl
      | some text' =>
        refine .ok fun a => ?_
        rw [Option.some.injEq, hmake]
        simp [eq_comm]

theorem reports_toLink (snapshot : Snapshot) :
    Reports (missingValues snapshot.addLink
      [("linkText", snapshot.linkText), ("linkHref", snapshot.linkHref)])
      (fun feature => ∀ link, feature = some link ↔ snapshot.addLink = true ∧
        snapshot.linkText = some link.text ∧ snapshot.linkHref = some link.target)
      snapshot.toLink := by
  refine reports_feature _ _ _ _ _ Link.mk ?_
  rintro ⟨text, target⟩ text' target'
  simp [eq_comm]

theorem reports_toTheme (snapshot : Snapshot) :
    Reports (missingValues snapshot.useCustomColors
      [("primaryColor", snapshot.primaryColor), ("secondaryColor", snapshot.secondaryColor)])
      (fun feature => ∀ theme, feature = some theme ↔ snapshot.useCustomColors = true ∧
        snapshot.primaryColor = some theme.primary ∧
        snapshot.secondaryColor = some theme.secondary)
      snapshot.toTheme := by
  refine reports_feature _ _ _ _ _ Theme.mk ?_
  rintro ⟨primary, secondary⟩ primary' secondary'
  simp [eq_comm]

theorem reports_toStorage (snapshot : Snapshot) :
    Reports (missingValues snapshot.includeDatabase
      [("databaseName", snapshot.databaseName), ("collectionName", snapshot.collectionName)])
      (fun feature => ∀ storage, feature = some storage ↔ snapshot.includeDatabase = true ∧
        snapshot.databaseName = some storage.database ∧
        snapshot.collectionName = some storage.collection)
      snapshot.toStorage := by
  refine reports_feature _ _ _ _ _ Storage.mk ?_
  rintro ⟨database, collection⟩ database' collection'
  simp [eq_comm]

theorem bind_ofName?_eq_some_iff {α : Type} {ofName? : String → Option α} {name : α → String}
    (h : ∀ s a, ofName? s = some a ↔ name a = s) (saved : Option String) (a : α) :
    saved.bind ofName? = some a ↔ saved = some (name a) := by
  cases saved with
  | none => simp
  | some s => simp [h, eq_comm]

/-- Reading reports the first problem of a snapshot, and otherwise gives the form that was saved. -/
theorem reports_toForm (snapshot : Snapshot) :
    Reports snapshot.problems snapshot.Describes snapshot.toForm := by
  refine snapshot.reports_toRouting.bind fun routing hrouting => ?_
  refine (reports_toFields 0 snapshot.inputFields).bind fun fields hfields => ?_
  refine (reports_toButtons 0 snapshot.buttons).bind fun buttons hbuttons => ?_
  refine snapshot.reports_toLink.bind fun link hlink => ?_
  refine snapshot.reports_toTheme.bind fun theme htheme => ?_
  refine snapshot.reports_toStorage.map fun storage hstorage => ?_
  exact
    { name := rfl, fields := hfields, buttons := hbuttons, submitIndex := rfl
      layout := Layout.name_ofName snapshot.formStyle
      horizontal := bind_ofName?_eq_some_iff
        (fun _ _ => HorizontalAlign.ofName?_eq_some_iff) snapshot.horizontalAlignment
      vertical := bind_ofName?_eq_some_iff
        (fun _ _ => VerticalAlign.ofName?_eq_some_iff) snapshot.verticalAlignment
      width := rfl, loadingState := rfl, errorDisplay := rfl, theme := htheme
      storage := hstorage, serverAction := rfl, apiRoute := rfl, routing := hrouting
      successMessage := rfl, errorMessage := rfl, link := hlink }

/-! ## All snapshots -/

/-- A snapshot is read exactly when nothing is wrong with it, and otherwise the first problem is
reported.  The form that is read is the one that was saved, and the counts, the language and the
version that were saved with it do not matter. -/
theorem toForm_first (snapshot : Snapshot) :
    ((∃ form, snapshot.toForm = .ok form) ↔ snapshot.Sound) ∧
    (∀ v, snapshot.toForm = .error v ↔ snapshot.problems.head? = some v) ∧
    (∀ form, snapshot.toForm = .ok form → snapshot.Describes form) ∧
    ∀ inputs buttons typed version,
      toForm { snapshot with
        inputCount := inputs, buttonCount := buttons, useTypeScript := typed,
        generatorVersion := version } = snapshot.toForm := by
  have hreports := snapshot.reports_toForm
  refine ⟨?_, fun v => hreports.eq_error_iff, fun form hform => ?_, fun _ _ _ _ => rfl⟩
  · rw [hreports.exists_eq_ok_iff, problems_eq_nil_iff]
  · rw [hform] at hreports
    exact hreports.2

/-- A snapshot with values of features that are off, and with names that are not known. -/
def stale : Snapshot :=
  { ofForm (.named "contact") with
    inputCount := some 7
    addLink := false
    linkText := some "Home"
    linkHref := some "/"
    formStyle := "Grid"
    verticalAlignment := some "Middle"
    inputFields :=
      [{ name := "age", label := "", placeholder := "", type := "number", validation := ""
         errorMessage := " " }]
    buttons := [{ name := "Send", variant := "ghost" }] }

/-- The same snapshot with several problems. -/
def spoilt : Snapshot :=
  { stale with
    inputFields := stale.inputFields ++
      [{ name := "terms", label := "", placeholder := "", type := "checkbox", validation := ""
         errorMessage := "" }]
    buttons := [{ name := "Send", variant := "loud" }]
    addLink := true
    linkText := none
    includeDatabase := true }

theorem toForm_first_stale :
    (∃ form, stale.toForm = .ok form ∧ stale.Describes form ∧ form.link = none ∧
      form.layout = .stacked ∧ form.vertical = none ∧ form.fields.map (·.message) = [none]) ∧
    spoilt.toForm = .error (.unknownFieldType 1 "checkbox") := by
  obtain ⟨hok, -, hdescribes, -⟩ := toForm_first stale
  obtain ⟨form, hform⟩ := hok.mpr
    ⟨.inl rfl, by decide, by decide, by decide, by decide, by decide⟩
  refine ⟨⟨form, hform, hdescribes form hform, ?_⟩, ?_⟩
  · obtain rfl := Except.ok.inj hform
    exact ⟨rfl, rfl, rfl, by decide⟩
  · exact ((toForm_first spoilt).2.1 _).mpr (by decide)

end Snapshot

end FormScaffold
