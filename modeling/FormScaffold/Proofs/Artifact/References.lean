import FormScaffold.Artifact.Generate
import FormScaffold.Proofs.Code.Lines
import FormScaffold.Proofs.Form.Valid
import FormScaffold.Proofs.Snapshot.Json
import FormScaffold.Proofs.Text.Quoted

/-!
# References between artifacts

A valid form is generated unless an artifact lacks a text that it must hold.  All artifacts that
are put together as source hold their texts, because symbols, addresses and the names of a storage
stand in some line as they are.
-/

namespace FormScaffold

/-! ## Texts in lines -/

namespace Import

theorem isInfix_line_name (name source : String) :
    name.toList <:+: (named [name] source).line.toList :=
  ⟨"import \x7b ".toList, (" \x7d from '" ++ source ++ "';").toList,
    by simp [line, nameList, Quoted.braced]⟩

theorem isInfix_line_source (names : List String) (source : String) :
    source.toList <:+: (named names source).line.toList :=
  ⟨("import " ++ nameList names ++ " from '").toList, "';".toList, by simp [line]⟩

end Import

theorem escape_eq_singleton_of_continuesIdentifier {c : Char} (h : continuesIdentifier c = true) :
    Quoted.escape c = [c] := by
  refine Quoted.escape_eq_singleton fun hmem => ?_
  simp only [List.mem_cons, List.not_mem_nil, or_false] at hmem
  rcases hmem with rfl | rfl | rfl | rfl | rfl <;> exact absurd h (by decide)

/-- The names of a storage need no escapes in source. -/
theorem escape_eq_singleton_of_isStorageName {name : String} (h : isStorageName name = true) :
    ∀ c ∈ name.toList, Quoted.escape c = [c] := by
  intro c hc
  rw [isStorageName, Bool.not_eq_true', List.any_eq_false] at h
  refine Quoted.escape_eq_singleton fun hmem => h c hc ?_
  simp only [List.mem_cons, List.not_mem_nil, or_false] at hmem
  rcases hmem with rfl | rfl | rfl | rfl | rfl <;> decide

namespace Form

variable {form : Form}

/-! ## Lines of the artifacts -/

/-- The source of an artifact as a tree; the snapshot is no source. -/
def code (form : Form) : Role → Code
  | .component => form.component
  | .schema => form.schema
  | .serverAction => form.serverActionCode
  | .apiRoute => form.apiRouteCode
  | .databaseClient => form.databaseClientCode
  | .snapshot => .empty

theorem contents_eq_render (form : Form) {role : Role} (h : role ≠ .snapshot) :
    form.contents role = (form.code role).render := by
  cases role with
  | snapshot => exact absurd rfl h
  | _ => rfl

theorem schemaImport_mem_component (form : Form) :
    (form.naming.schemaImport .component).line ∈ form.component.texts := by
  simp [component, componentImports, Import.code]

theorem actionImport_mem_component (h : form.serverAction = true) :
    (Import.named [form.naming.actionSymbol]
      (form.naming.importPath .component .serverAction)).line ∈ form.component.texts := by
  simp [component, componentImports, Import.code, h]

theorem fetch_mem_component (h : form.strategy = .apiRoute) :
    "const response = await fetch(" ++ Quoted.literal form.naming.routeUrl ++ ", \x7b" ∈
      form.component.texts := by
  simp [component, componentBody, Submission.handler, Submission.attempt, submission, h]

theorem symbol_mem_schema (form : Form) :
    "export const " ++ form.naming.schemaSymbol ++ " = z.object(\x7b" ∈ form.schema.texts := by
  simp [schema]

theorem serverImports_subset_serverActionCode (form : Form) :
    (form.serverImports .serverAction).texts ⊆ form.serverActionCode.texts := by
  intro t ht
  simp [serverActionCode, ht]

theorem serverImports_subset_apiRouteCode (form : Form) :
    (form.serverImports .apiRoute).texts ⊆ form.apiRouteCode.texts := by
  intro t ht
  cases h : form.routing <;> simp [apiRouteCode, appRoute, pagesRoute, h, ht]

theorem processing_subset_serverActionCode (form : Form) :
    (form.processing "validatedData").texts ⊆ form.serverActionCode.texts := by
  intro t ht
  simp [serverActionCode, guarded, ht]

theorem processing_subset_apiRouteCode (form : Form) :
    (form.processing "data").texts ⊆ form.apiRouteCode.texts := by
  intro t ht
  cases h : form.routing <;> simp [apiRouteCode, appRoute, pagesRoute, guarded, h, ht]

theorem literal_mem_processing {storage : Storage} (h : form.storage = some storage)
    {name : String} (hname : name ∈ [storage.database, storage.collection]) (value : String) :
    ∃ t ∈ (form.processing value).texts, (Quoted.literal name).toList <:+: t.toList := by
  rcases List.mem_pair.mp hname with rfl | rfl
  · refine ⟨"const db = client.db(" ++ Quoted.literal storage.database ++ ");", ?_, ?_⟩
    · simp [processing, h, Storage.insertion]
    · exact ⟨"const db = client.db(".toList, ");".toList, by simp⟩
  · refine ⟨"const collection = db.collection(" ++ Quoted.literal storage.collection ++ ");", ?_, ?_⟩
    · simp [processing, h, Storage.insertion]
    · exact ⟨"const collection = db.collection(".toList, ");".toList, by simp⟩

theorem literal_mem_databaseClientCode {storage : Storage} (h : form.storage = some storage)
    {name : String} (hname : name ∈ [storage.database, storage.collection]) :
    ∃ t ∈ form.databaseClientCode.texts, (Quoted.literal name).toList <:+: t.toList := by
  rcases List.mem_pair.mp hname with rfl | rfl
  · refine ⟨"export const databaseName = " ++ Quoted.literal storage.database ++ ";", ?_, ?_⟩
    · simp [databaseClientCode, h]
    · exact ⟨"export const databaseName = ".toList, ";".toList, by simp⟩
  · refine ⟨"export const collectionName = " ++ Quoted.literal storage.collection ++ ";", ?_, ?_⟩
    · simp [databaseClientCode, h]
    · exact ⟨"export const collectionName = ".toList, ";".toList, by simp⟩

/-! ## Texts that the artifacts hold -/

theorem mem_expectedStorageNames {role : Role} {name : String}
    (h : name ∈ form.expectedStorageNames role) :
    ∃ storage, form.storage = some storage ∧ name ∈ [storage.database, storage.collection] := by
  cases hs : form.storage with
  | none => cases role <;> simp [expectedStorageNames, hs] at h
  | some storage =>
    refine ⟨storage, rfl, ?_⟩
    cases role <;> simp [expectedStorageNames, hs] at h <;> simpa using h

namespace Valid

theorem isStorageName (h : form.Valid) {role : Role} {name : String}
    (hname : name ∈ form.expectedStorageNames role) :
    FormScaffold.isStorageName name = true := by
  obtain ⟨storage, hs, hname⟩ := mem_expectedStorageNames hname
  exact (h.storage storage hs name hname).2

theorem escape_routeUrl (h : form.Valid) :
    ∀ c ∈ form.naming.routeUrl.toList, Quoted.escape c = [c] := by
  intro c hc
  have hroute : ∀ c ∈ "/api/".toList, Quoted.escape c = [c] :=
    Text.forall_mem_of_all (by decide)
  rw [Naming.routeUrl, String.toList_append, List.mem_append] at hc
  rcases hc with hc | hc
  · exact hroute c hc
  · exact escape_eq_singleton_of_continuesIdentifier (continuesIdentifier_of_mem h.name c hc)

theorem contains_component (h : form.Valid) {text : String}
    (ht : text ∈ form.expectedNames .component) :
    Text.contains form.component.render text = true := by
  rcases List.mem_append.mp ht with ht | ht
  · rcases List.mem_append.mp ht with ht | ht
    · rw [List.mem_singleton.mp ht]
      exact Code.contains_render form.schemaImport_mem_component (Import.isInfix_line_name _ _)
    · split at ht
      · next haction =>
        rw [List.mem_singleton.mp ht]
        exact Code.contains_render (actionImport_mem_component haction)
          (Import.isInfix_line_name _ _)
      · exact absurd ht List.not_mem_nil
  · split at ht
    · next hpost =>
      have hstrategy : form.strategy = .apiRoute := by simpa [postsToRoute] using hpost
      rw [List.mem_singleton.mp ht]
      refine Code.contains_render (fetch_mem_component hstrategy) ?_
      exact (Quoted.isInfix_literal h.escape_routeUrl).trans
        ⟨"const response = await fetch(".toList, ", \x7b".toList, by simp⟩
    · exact absurd ht List.not_mem_nil

theorem contains_schema {text : String} (ht : text ∈ form.expectedNames .schema) :
    Text.contains form.schema.render text = true := by
  rw [List.mem_singleton.mp ht]
  exact Code.contains_render form.symbol_mem_schema
    ⟨[], " = z.object(\x7b".toList, by simp⟩

/-- An artifact with the imports of the server holds the symbol of the schema and its module. -/
theorem contains_serverImports {code : Code} {source : Role}
    (hsub : (form.serverImports source).texts ⊆ code.texts) {text : String}
    (ht : text ∈ [form.naming.importPath source .schema, form.naming.schemaSymbol]) :
    Text.contains code.render text = true := by
  have hline : (form.naming.schemaImport source).line ∈ code.texts :=
    hsub (by simp [serverImports, Import.code])
  rcases List.mem_pair.mp ht with rfl | rfl
  · exact Code.contains_render hline (Import.isInfix_line_source _ _)
  · exact Code.contains_render hline (Import.isInfix_line_name _ _)

theorem contains_storageName (h : form.Valid) {code : Code} {role : Role} {name : String}
    (hname : name ∈ form.expectedStorageNames role)
    (hcode : ∃ t ∈ code.texts, (Quoted.literal name).toList <:+: t.toList) :
    Text.contains code.render name = true := by
  obtain ⟨t, ht, hliteral⟩ := hcode
  refine Code.contains_render ht ((Quoted.isInfix_literal ?_).trans hliteral)
  exact escape_eq_singleton_of_isStorageName (h.isStorageName hname)

/-- All artifacts but the snapshot hold the texts that they must hold. -/
theorem contains_contents (h : form.Valid) {role : Role} (hrole : role ≠ .snapshot) {text : String}
    (ht : text ∈ form.expectedNames role ++ form.expectedStorageNames role) :
    Text.contains (form.contents role) text = true := by
  rcases List.mem_append.mp ht with ht | ht
  · cases role with
    | component => exact h.contains_component ht
    | schema => exact contains_schema ht
    | serverAction => exact contains_serverImports form.serverImports_subset_serverActionCode ht
    | apiRoute => exact contains_serverImports form.serverImports_subset_apiRouteCode ht
    | databaseClient => exact absurd ht List.not_mem_nil
    | snapshot => exact absurd rfl hrole
  · obtain ⟨storage, hs, hname⟩ := mem_expectedStorageNames ht
    cases role with
    | component => exact absurd ht List.not_mem_nil
    | schema => exact absurd ht List.not_mem_nil
    | serverAction =>
      obtain ⟨t, hmem, hliteral⟩ := literal_mem_processing hs hname "validatedData"
      exact h.contains_storageName ht ⟨t, form.processing_subset_serverActionCode hmem, hliteral⟩
    | apiRoute =>
      obtain ⟨t, hmem, hliteral⟩ := literal_mem_processing hs hname "data"
      exact h.contains_storageName ht ⟨t, form.processing_subset_apiRouteCode hmem, hliteral⟩
    | databaseClient => exact h.contains_storageName ht (literal_mem_databaseClientCode hs hname)
    | snapshot => exact absurd rfl hrole

end Valid

/-! ## The snapshot -/

/-- Whether a text holds a character that JSON cannot show as it is. -/
def hasControl (s : String) : Bool := s.toList.any fun c => c.toNat < 0x20

theorem isInfix_storageName_textOf {storage : Storage} (h : form.storage = some storage)
    {name : String} (hname : name ∈ [storage.database, storage.collection]) :
    (Json.RawString.ofString name).render <:+: (Snapshot.textOf form).toList := by
  have hvalue : (Json.Value.ofString name).render 1 <:+:
      (Snapshot.ofForm form).stamped.toJson.render 0 := by
    rcases List.mem_pair.mp hname with rfl | rfl
    · refine Json.isInfix_render_object (m := (.ofString "databaseName", .ofString storage.database))
        (List.mem_map.mpr ⟨("databaseName", .ofString storage.database), ?_, rfl⟩) .closed
      simp [Snapshot.stamped, Snapshot.ofForm, Snapshot.ifPresent, h]
    · refine Json.isInfix_render_object
        (m := (.ofString "collectionName", .ofString storage.collection))
        (List.mem_map.mpr ⟨("collectionName", .ofString storage.collection), ?_, rfl⟩) .closed
      simp [Snapshot.stamped, Snapshot.ofForm, Snapshot.ifPresent, h]
  rw [Json.Value.ofString, Json.Value.render] at hvalue
  rw [Snapshot.textOf, Json.Value.toText, String.toList_ofList]
  exact hvalue.trans (List.prefix_append _ _).isInfix

/-- The snapshot holds the names of the storage unless they have control characters: those are
escaped. -/
theorem Valid.contains_snapshot (h : form.Valid) {name : String}
    (hname : name ∈ form.expectedStorageNames .snapshot) :
    Text.contains (form.contents .snapshot) name = !hasControl name := by
  have hvalid : ∀ c ∈ name.toList, breaksStorageName c = false := by
    have hstorage := h.isStorageName hname
    rw [FormScaffold.isStorageName, Bool.not_eq_true', List.any_eq_false] at hstorage
    simpa using hstorage
  rw [Bool.eq_iff_iff, Text.contains_iff_isInfix, Bool.not_eq_true', hasControl, List.any_eq_false]
  constructor
  · intro hwithin c hc
    have hshown := (Snapshot.written_toJson (Snapshot.ofForm form).stamped).isShown_toText c
      (hwithin.subset hc)
    rcases hshown with hle | rfl
    · simpa using hle
    · exact absurd (hvalid _ hc) (by decide)
  · intro hcontrol
    obtain ⟨storage, hs, hmem⟩ := mem_expectedStorageNames hname
    refine (Json.isInfix_render_ofString ?_ ?_ ?_).trans (isInfix_storageName_textOf hs hmem)
    · exact fun hquote => absurd (hvalid _ hquote) (by decide)
    · exact fun hslash => absurd (hvalid _ hslash) (by decide)
    · exact fun c hc => by simpa using hcontrol c hc

/-! ## Generating -/

theorem find?_congr {α : Type} {p q : α → Bool} {l : List α} (h : ∀ a ∈ l, p a = q a) :
    l.find? p = l.find? q := by
  induction l with
  | nil => rfl
  | cons a l ih =>
    rw [List.find?_cons, List.find?_cons, h a List.mem_cons_self,
      ih fun b hb => h b (List.mem_cons_of_mem a hb)]

theorem generate_of_violation {violation : Violation} (h : form.violation? = some violation) :
    form.generate = .error (.invalid violation) := by
  rw [generate, h]

theorem snapshot_mem_roles (form : Form) : Role.snapshot ∈ form.roles :=
  List.mem_append_right _ (List.mem_singleton_self _)

theorem nodup_roles (form : Form) : form.roles.Nodup := by
  rw [roles]
  split_ifs <;> decide

/-- Every role of a form has exactly one artifact. -/
theorem filter_artifacts {role : Role} (h : role ∈ form.roles) :
    form.artifacts.filter (fun a => a.role = role) = [form.artifact role] := by
  have hroles : form.roles.filter (fun r => r = role) = [role] := by
    rw [List.filter_eq, List.count_eq_one_of_mem form.nodup_roles h, List.replicate_one]
  rw [artifacts, List.filter_map]
  exact congrArg (List.map form.artifact) hroles

/-- A form that posts to the API route has one. -/
theorem Valid.apiRoute_mem_roles (h : form.Valid) (hpost : form.postsToRoute = true) :
    Role.apiRoute ∈ form.roles := by
  have hstrategy : form.strategy = .apiRoute := by simpa [postsToRoute] using hpost
  rw [strategy] at hstrategy
  split at hstrategy
  · exact absurd hstrategy (by decide)
  · next haction =>
    split at hstrategy
    · next hstorage =>
      have hroute : form.apiRoute = true := h.route hstorage (by simpa using haction)
      simp [roles, hroute]
    · exact absurd hstrategy (by decide)

theorem Valid.missingText?_eq_none (h : form.Valid) {role : Role} (hrole : role ≠ .snapshot) :
    form.missingText? (form.artifact role) = none := by
  rw [missingText?, List.find?_eq_none]
  intro text ht
  rw [Bool.not_eq_true', Bool.not_eq_false]
  exact h.contains_contents hrole ht

theorem Valid.missingText?_snapshot (h : form.Valid) :
    form.missingText? (form.artifact .snapshot) =
      (form.expectedStorageNames .snapshot).find? hasControl := by
  rw [missingText?]
  refine find?_congr fun name hname => ?_
  show (!Text.contains (form.contents .snapshot) name) = hasControl name
  rw [h.contains_snapshot hname, Bool.not_not]

/-- Only the snapshot can lack a text. -/
theorem Valid.inconsistency?_artifacts (h : form.Valid) :
    form.inconsistency? form.artifacts =
      ((form.expectedStorageNames .snapshot).find? hasControl).map (.inconsistent .snapshot) := by
  have hroute : (form.postsToRoute && !form.artifacts.any fun a => a.role = .apiRoute) = false := by
    cases hpost : form.postsToRoute with
    | false => rfl
    | true =>
      have hany : (form.artifacts.any fun a => a.role = .apiRoute) = true :=
        List.any_eq_true.mpr ⟨form.artifact .apiRoute,
          List.mem_map_of_mem (h.apiRoute_mem_roles hpost), rfl⟩
      rw [hany]
      rfl
  have hsource : ∀ role ∈ [Role.component, .schema] ++
      (if form.serverAction then [.serverAction] else []) ++
      (if form.apiRoute then [.apiRoute] else []) ++
      (if form.storage.isSome then [.databaseClient] else []), role ≠ .snapshot := by
    rintro role hrole rfl
    split_ifs at hrole <;> simp at hrole
  rw [inconsistency?, if_neg (by simp [hroute]), artifacts, List.findSome?_map, roles,
    List.findSome?_append, List.findSome?_eq_none_iff.mpr, Option.none_or, List.findSome?_singleton]
  · show (form.missingText? (form.artifact .snapshot)).map _ = _
    rw [h.missingText?_snapshot]
    rfl
  · intro role hrole
    show (form.missingText? (form.artifact role)).map _ = none
    rw [h.missingText?_eq_none (hsource role hrole), Option.map_none]

/-- What becomes of a form: it is refused when it is not valid or when a name of its storage has a
control character, and is generated otherwise. -/
theorem generate_eq (form : Form) :
    form.generate =
      match form.violation? with
      | some violation => .error (.invalid violation)
      | none =>
        match (form.expectedStorageNames .snapshot).find? hasControl with
        | some name => .error (.inconsistent .snapshot name)
        | none => .ok form.artifacts := by
  cases hv : form.violation? with
  | some violation => exact generate_of_violation hv
  | none =>
    have hvalid : form.Valid := form.violation?_eq_none_iff.mp hv
    rw [generate, hv]
    dsimp only
    rw [hvalid.inconsistency?_artifacts]
    cases (form.expectedStorageNames .snapshot).find? hasControl <;> rfl

/-- A valid form whose storage names have no control characters is generated. -/
theorem generate_of_valid (hv : form.violation? = none)
    (hc : (form.expectedStorageNames .snapshot).find? hasControl = none) :
    form.generate = .ok form.artifacts := by
  rw [generate_eq, hv, hc]

theorem valid_of_generate {artifacts : List Artifact} (h : form.generate = .ok artifacts) :
    form.Valid ∧ artifacts = form.artifacts := by
  rw [generate_eq] at h
  split at h
  · exact absurd h (by simp)
  · next hv =>
    split at h
    · exact absurd h (by simp)
    · exact ⟨form.violation?_eq_none_iff.mp hv, (Except.ok.inj h).symm⟩

theorem validate_eq_error_iff {violation : Violation} :
    form.validate = .error violation ↔ form.violation? = some violation := by
  rw [validate]
  cases form.violation? with
  | none => simp
  | some v => simp

theorem validate_eq_ok_iff : form.validate = .ok () ↔ form.Valid := by
  rw [validate, ← violation?_eq_none_iff]
  cases form.violation? with
  | none => simp
  | some v => simp

/-- A form is refused with its violation when it has one.  Otherwise every artifact holds the texts
that it must hold, up to control characters of storage names in the snapshot, and the first such
name is all that can keep the form from being generated. -/
theorem generate_outcome (form : Form) :
    (∀ violation, form.validate = .error violation →
      form.generate = .error (.invalid violation)) ∧
    (form.validate = .ok () →
      (form.generate = .ok form.artifacts ↔
        ∀ name ∈ form.expectedStorageNames .snapshot, hasControl name = false) ∧
      (∀ name, (form.expectedStorageNames .snapshot).find? hasControl = some name →
        form.generate = .error (.inconsistent .snapshot name)) ∧
      ∀ role ∈ form.roles, ∀ text ∈ form.expectedNames role ++ form.expectedStorageNames role,
        Text.contains (form.contents role) text =
          !(decide (role = .snapshot) && hasControl text)) := by
  refine ⟨fun violation hv => generate_of_violation (validate_eq_error_iff.mp hv), fun hok => ?_⟩
  have h : form.Valid := validate_eq_ok_iff.mp hok
  have hnone : form.violation? = none := form.violation?_eq_none_iff.mpr h
  refine ⟨⟨?_, ?_⟩, ?_, ?_⟩
  · intro hgenerate
    rw [generate_eq, hnone] at hgenerate
    cases hfind : (form.expectedStorageNames .snapshot).find? hasControl with
    | some name => simp [hfind] at hgenerate
    | none => simpa [List.find?_eq_none] using hfind
  · intro hnames
    exact generate_of_valid hnone (List.find?_eq_none.mpr (by simpa using hnames))
  · intro name hfind
    rw [generate_eq, hnone, hfind]
  · intro role _ text htext
    by_cases hrole : role = .snapshot
    · subst hrole
      rw [h.contains_snapshot htext, decide_eq_true rfl, Bool.true_and]
    · rw [h.contains_contents hrole htext, decide_eq_false hrole]
      rfl

/-- A valid form whose database is named by a control character. -/
def controlNamed : Form :=
  { named "contact" with
    buttons := [{ text := "Send", variant := .default }]
    storage := some { database := "\x01", collection := "entries" }
    apiRoute := true }

theorem controlNamed_inconsistent :
    controlNamed.validate = .ok () ∧
      controlNamed.generate = .error (.inconsistent .snapshot "\x01") := by
  have hnone : controlNamed.violation? = none := by decide
  refine ⟨validate_eq_ok_iff.mpr (controlNamed.violation?_eq_none_iff.mp hnone), ?_⟩
  have hfind : (controlNamed.expectedStorageNames .snapshot).find? hasControl = some "\x01" := by
    decide
  rw [generate_eq, hnone, hfind]

end Form

end FormScaffold
