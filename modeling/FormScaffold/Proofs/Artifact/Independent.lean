import FormScaffold.Proofs.Artifact.References

/-!
# What the artifacts depend on

The page and the server are generated from the same form, and each from its own part of it.  The
component is the same for all forms that show the same, whatever the storage is called, and the
artifacts behind the page are the same for all forms with the same data, whatever is shown
(`Form.generate_independent`).
-/

namespace FormScaffold

/-! ## The page -/

/-- A field without what its page does not show. -/
def Field.shown (field : Field) : Field := { field with rules := "", message := none }

namespace Form

/-- A form without what its page does not show. -/
def shown (form : Form) : Form :=
  { form with
    fields := form.fields.map Field.shown
    storage := form.storage.map fun _ => { database := "", collection := "" }
    apiRoute := false }

theorem isSome_storage_shown (form : Form) :
    form.shown.storage.isSome = form.storage.isSome :=
  Option.isSome_map ..

theorem strategy_shown (form : Form) : form.shown.strategy = form.strategy := by
  rw [strategy, strategy, isSome_storage_shown]
  rfl

theorem submission_shown (form : Form) : form.shown.submission = form.submission := by
  rw [submission, submission, strategy_shown]
  rfl

theorem any_shown (fields : List Field) (p : InputType → Bool) :
    ((fields.map Field.shown).any fun f => p f.type) = fields.any fun f => p f.type := by
  rw [List.any_map]
  rfl

theorem componentImports_shown (form : Form) :
    form.shown.componentImports = form.componentImports := by
  have htextarea : form.shown.hasTextarea = form.hasTextarea :=
    any_shown form.fields fun t => t = .textarea
  have hinput : form.shown.hasSingleLineInput = form.hasSingleLineInput :=
    any_shown form.fields fun t => t ≠ .textarea
  rw [componentImports, componentImports, htextarea, hinput]
  rfl

theorem buttonsFrom_shown (form : Form) (position : Nat) (buttons : List Button) :
    form.shown.buttonsFrom position buttons = form.buttonsFrom position buttons := by
  induction buttons generalizing position with
  | nil => rfl
  | cons b bs ih =>
    rw [buttonsFrom, buttonsFrom, ih]
    rfl

theorem parts_shown (form : Form) : form.shown.parts = form.parts := by
  have hfields : form.shown.fields.map Field.markup = form.fields.map Field.markup := by
    rw [shown, List.map_map]
    rfl
  rw [parts, parts, hfields, buttonsFrom_shown]
  rfl

theorem view_shown (form : Form) : form.shown.view = form.view := by
  rw [view, view, parts_shown]
  rfl

theorem defaultValues_shown (form : Form) : form.shown.defaultValues = form.defaultValues := by
  rw [defaultValues, defaultValues, shown, List.map_map]
  rfl

/-- The component shows all that it depends on. -/
theorem component_shown (form : Form) : form.shown.component = form.component := by
  have hbody : form.shown.componentBody = form.componentBody := by
    rw [componentBody, componentBody, submission_shown, defaultValues_shown, view_shown]
    rfl
  rw [component, component, componentImports_shown, hbody]
  rfl

theorem component_eq_of_shown_eq {f g : Form} (h : f.shown = g.shown) :
    f.component = g.component := by
  rw [← component_shown f, h, component_shown]

/-- The forms differ at most in the names of the database and of the collection. -/
def SameButStorageNames (f g : Form) : Prop :=
  g = { f with storage := g.storage } ∧ g.storage.isSome = f.storage.isSome

theorem SameButStorageNames.shown_eq {f g : Form} (h : f.SameButStorageNames g) :
    f.shown = g.shown := by
  obtain ⟨heq, hsome⟩ := h
  have hstorage : (f.storage.map fun _ => ({ database := "", collection := "" } : Storage)) =
      g.storage.map fun _ => { database := "", collection := "" } := by
    cases hf : f.storage <;> cases hg : g.storage <;> simp_all
  rw [heq, shown, shown, hstorage]

/-! ## The server -/

/-- The forms agree on all that the schema and the server have to do with. -/
structure SameData (f g : Form) : Prop where
  name : f.name = g.name
  routing : f.routing = g.routing
  serverAction : f.serverAction = g.serverAction
  apiRoute : f.apiRoute = g.apiRoute
  storage : f.storage = g.storage
  fields : List.Forall₂ (fun a b : Field =>
    a.name = b.name ∧ a.type = b.type ∧ a.rules = b.rules ∧ a.message = b.message) f.fields g.fields

namespace SameData

variable {f g : Form} (h : f.SameData g)
include h

theorem naming : f.naming = g.naming := by
  rw [Form.naming, Form.naming, h.name, h.routing]

theorem map_schemaEntry : f.fields.map Field.schemaEntry = g.fields.map Field.schemaEntry := by
  have hentries : List.Forall₂ (· = ·) (f.fields.map Field.schemaEntry)
      (g.fields.map Field.schemaEntry) := by
    rw [List.forall₂_map_left_iff, List.forall₂_map_right_iff]
    refine h.fields.imp fun a b hab => ?_
    obtain ⟨name, label, placeholder, type, rules, message⟩ := a
    obtain ⟨rfl, rfl, rfl, rfl⟩ := hab
    rfl
  rwa [List.forall₂_eq_eq_eq] at hentries

theorem schema : f.schema = g.schema := by
  rw [Form.schema, Form.schema, h.map_schemaEntry, h.naming]

theorem processing : f.processing = g.processing := by
  funext value
  rw [Form.processing, Form.processing, h.storage]

theorem serverImports : f.serverImports = g.serverImports := by
  funext source
  rw [Form.serverImports, Form.serverImports, h.naming, h.storage]

theorem serverActionCode : f.serverActionCode = g.serverActionCode := by
  rw [Form.serverActionCode, Form.serverActionCode, h.serverImports, h.naming, h.processing]

theorem apiRouteCode : f.apiRouteCode = g.apiRouteCode := by
  rw [Form.apiRouteCode, Form.apiRouteCode, appRoute, appRoute, pagesRoute, pagesRoute,
    h.serverImports, h.naming, h.processing, h.routing]

theorem databaseClientCode : f.databaseClientCode = g.databaseClientCode := by
  rw [Form.databaseClientCode, Form.databaseClientCode, h.storage]

theorem roles : f.roles = g.roles := by
  rw [Form.roles, Form.roles, h.serverAction, h.apiRoute, h.storage]

theorem contents {role : Role} (hcomponent : role ≠ .component) (hsnapshot : role ≠ .snapshot) :
    f.contents role = g.contents role := by
  cases role with
  | component => exact absurd rfl hcomponent
  | schema => exact congrArg Code.render h.schema
  | serverAction => exact congrArg Code.render h.serverActionCode
  | apiRoute => exact congrArg Code.render h.apiRouteCode
  | databaseClient => exact congrArg Code.render h.databaseClientCode
  | snapshot => exact absurd rfl hsnapshot

end SameData

/-! ## The artifacts of two forms -/

variable {f g : Form}

/-- Forms with the same roles and names have the same artifacts where the contents are the same. -/
theorem filter_artifacts_congr (hnaming : f.naming = g.naming) (hroles : f.roles = g.roles)
    {kept : List Role} (hcontents : ∀ role ∈ kept, f.contents role = g.contents role) :
    f.artifacts.filter (fun a => a.role ∈ kept) = g.artifacts.filter (fun a => a.role ∈ kept) := by
  rw [artifacts, artifacts, List.filter_map, List.filter_map, hroles]
  refine List.map_congr_left fun role hrole => ?_
  have hkept : role ∈ kept := of_decide_eq_true (List.mem_filter.mp hrole).2
  rw [artifact, artifact, hnaming, hcontents role hkept]

theorem SameButStorageNames.filter_artifacts (h : f.SameButStorageNames g) :
    f.artifacts.filter (fun a => a.role ∈ [.component, .schema]) =
      g.artifacts.filter (fun a => a.role ∈ [.component, .schema]) := by
  have hcomponent : f.component = g.component := component_eq_of_shown_eq h.shown_eq
  obtain ⟨heq, hsome⟩ := h
  have hnaming : f.naming = g.naming := heq ▸ rfl
  have hschema : f.schema = g.schema := heq ▸ rfl
  have hroles : f.roles = g.roles := by
    rw [roles, roles, hsome, heq]
  refine filter_artifacts_congr hnaming hroles fun role hrole => ?_
  rcases List.mem_pair.mp hrole with rfl | rfl
  · exact congrArg Code.render hcomponent
  · exact congrArg Code.render hschema

theorem SameData.filter_artifacts (h : f.SameData g) :
    f.artifacts.filter (fun a => a.role ∈ [.schema, .serverAction, .apiRoute, .databaseClient]) =
      g.artifacts.filter
        (fun a => a.role ∈ [.schema, .serverAction, .apiRoute, .databaseClient]) := by
  refine filter_artifacts_congr h.naming h.roles fun role hrole => h.contents ?_ ?_
  · rintro rfl
    exact absurd hrole (by decide)
  · rintro rfl
    exact absurd hrole (by decide)

/-- What the storage is called is not seen in the browser, and what is shown is not seen on the
server: of two forms that are generated, the first artifacts are the same if only the names of the
storage differ, and the others if the data is the same. -/
theorem generate_independent {as bs : List Artifact} (hf : f.generate = .ok as)
    (hg : g.generate = .ok bs) :
    (f.SameButStorageNames g →
      as.filter (fun a => a.role ∈ [.component, .schema]) =
        bs.filter (fun a => a.role ∈ [.component, .schema])) ∧
    (f.SameData g →
      as.filter (fun a => a.role ∈ [.schema, .serverAction, .apiRoute, .databaseClient]) =
        bs.filter (fun a => a.role ∈ [.schema, .serverAction, .apiRoute, .databaseClient])) := by
  obtain ⟨-, rfl⟩ := valid_of_generate hf
  obtain ⟨-, rfl⟩ := valid_of_generate hg
  exact ⟨SameButStorageNames.filter_artifacts, SameData.filter_artifacts⟩

/-- A form whose data is stored. -/
def stored : Form :=
  { named "contact" with
    fields := [{ Field.named "email" .email with rules := "required" }]
    buttons := [{ text := "Send", variant := .default }]
    apiRoute := true
    storage := some { database := "crm", collection := "entries" } }

/-- The same form with other names for its storage. -/
def storedElsewhere : Form :=
  { stored with storage := some { database := "archive", collection := "people" } }

/-- The same form with another page. -/
def storedFromCard : Form :=
  { stored with
    fields :=
      [{ Field.named "email" .email with label := "Your address", rules := "required" }]
    buttons := [{ text := "Cancel", variant := .ghost }, { text := "Save", variant := .outline }]
    submitIndex := 2
    layout := .card
    loadingState := false
    theme := some { primary := "#102030", secondary := "#405060" }
    link := some { text := "Home", target := "/" }
    successMessage := "Saved." }

theorem generate_independent_stored :
    stored.generate = .ok stored.artifacts ∧
    storedElsewhere.generate = .ok storedElsewhere.artifacts ∧
    storedFromCard.generate = .ok storedFromCard.artifacts ∧
    stored.artifacts.filter (fun a => a.role ∈ [.component, .schema]) =
      storedElsewhere.artifacts.filter (fun a => a.role ∈ [.component, .schema]) ∧
    stored.artifacts.filter
        (fun a => a.role ∈ [.schema, .serverAction, .apiRoute, .databaseClient]) =
      storedFromCard.artifacts.filter
        (fun a => a.role ∈ [.schema, .serverAction, .apiRoute, .databaseClient]) := by
  have hstored : stored.generate = .ok stored.artifacts :=
    generate_of_valid (by decide) (by decide)
  have helsewhere : storedElsewhere.generate = .ok storedElsewhere.artifacts :=
    generate_of_valid (by decide) (by decide)
  have hcard : storedFromCard.generate = .ok storedFromCard.artifacts :=
    generate_of_valid (by decide) (by decide)
  have hdata : stored.SameData storedFromCard :=
    { name := rfl, routing := rfl, serverAction := rfl, apiRoute := rfl, storage := rfl
      fields := .cons ⟨rfl, rfl, rfl, rfl⟩ .nil }
  exact ⟨hstored, helsewhere, hcard, (generate_independent hstored helsewhere).1 ⟨rfl, rfl⟩,
    (generate_independent hstored hcard).2 hdata⟩

end Form

end FormScaffold
