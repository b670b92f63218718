import FormScaffold.Proofs.Artifact.Braces
import FormScaffold.Proofs.Artifact.Import

/-!
# Artifacts as modules

What an artifact imports is stated as a list, and the unindented import lines of its text are
exactly the lines of that list.
-/

namespace FormScaffold

/-- Whether a line is an import. -/
def startsImport (t : String) : Bool := "import ".toList.isPrefixOf t.toList

theorem startsImport_line (i : Import) : startsImport i.line = true := by
  cases i <;> simp [startsImport, Import.line]

namespace Code

/-! ## Import lines of a piece -/

/-- The imports among the lines that are not moved in. -/
def importLines (code : Code) : List String := code.topTexts.filter startsImport

@[simp] theorem importLines_empty : empty.importLines = [] := rfl

@[simp] theorem importLines_gap : gap.importLines = [] := rfl

@[simp] theorem importLines_seq_nil : (seq []).importLines = [] := rfl

@[simp] theorem importLines_seq_cons (part : Code) (parts : List Code) :
    (seq (part :: parts)).importLines = part.importLines ++ (seq parts).importLines := by
  simp [importLines]

@[simp] theorem importLines_when (condition : Bool) (piece : Code) :
    (when condition piece).importLines = if condition then piece.importLines else [] := by
  cases condition <;> rfl

@[simp] theorem importLines_code (i : Import) : i.code.importLines = [i.line] := by
  simp [importLines, Import.code, startsImport_line]

theorem mem_importLines_iff {code : Code} (h : code.FeedFree) {l : String} :
    l ∈ code.importLines ↔ l ∈ Text.sourceLines code.render ∧ startsImport l = true := by
  rw [importLines, List.mem_filter]
  refine and_congr_left fun himport => ?_
  rw [startsImport, List.isPrefixOf_iff_prefix] at himport
  obtain ⟨rest, hrest⟩ := himport
  have hhead : l.toList.head? = some 'i' := by
    rw [← hrest]
    rfl
  exact (mem_sourceLines_render_of_head h hhead (by decide)).symm

end Code

namespace Form

/-! ## Imports of the artifacts -/

/-- The imports of an artifact that validates and stores data. -/
def serverImportList (form : Form) (source : Role) : List Import :=
  form.naming.schemaImport source ::
    if form.storage.isSome then
      [.default "clientPromise" (form.naming.importPath source .databaseClient)]
    else []

/-- What the component imports from the target application's own library. -/
def libraryImports (form : Form) : List Import :=
  [.named ["Button"] (libraryModule "button")] ++
    (if form.hasSingleLineInput then [.named ["Input"] (libraryModule "input")] else []) ++
    (if form.hasTextarea then [.named ["Textarea"] (libraryModule "textarea")] else []) ++
    [.named ["Form", "FormControl", "FormField", "FormItem", "FormLabel", "FormMessage"]
      (libraryModule "form")] ++
    if form.layout = .card then
      [.named ["Card", "CardContent", "CardDescription", "CardFooter", "CardHeader", "CardTitle"]
        (libraryModule "card")]
    else []

/-- What the component imports from packages. -/
def packageImports (form : Form) : List Import :=
  [ .named (if form.theme.isSome then ["useState", "type CSSProperties"] else ["useState"]) "react",
    .named ["useForm"] "react-hook-form",
    .named ["zodResolver"] "@hookform/resolvers/zod",
    .named ["z"] "zod" ] ++
    if form.link.isSome then [.default "Link" "next/link"] else []

/-- What an artifact imports, in the order of its lines. -/
def imports (form : Form) : Role → List Import
  | .component =>
    form.packageImports ++ form.libraryImports ++ form.naming.schemaImport .component ::
      if form.serverAction then
        [.named [form.naming.actionSymbol] (form.naming.importPath .component .serverAction)]
      else []
  | .schema => [.named ["z"] "zod"]
  | .serverAction => form.serverImportList .serverAction
  | .apiRoute =>
    (match form.routing with
      | .app => .named ["NextResponse"] "next/server"
      | .pages => .types ["NextApiRequest", "NextApiResponse"] "next") ::
        form.serverImportList .apiRoute
  | .databaseClient => [.named ["MongoClient", "MongoClientOptions"] "mongodb"]
  | .snapshot => []

theorem importLines_serverImports (form : Form) (source : Role) :
    (form.serverImports source).importLines = (form.serverImportList source).map Import.line := by
  cases h : form.storage <;> simp [serverImports, serverImportList, h]

theorem importLines_componentImports (form : Form) :
    form.componentImports.importLines = (form.imports .component).map Import.line := by
  simp [componentImports, imports, packageImports, libraryImports, apply_ite (List.map Import.line)]

/-- The import lines of an artifact are those of its imports, in this order. -/
theorem importLines_code (form : Form) (role : Role) :
    (form.code role).importLines = (form.imports role).map Import.line := by
  cases role with
  | component =>
    have htheme : form.themeStyle.importLines = [] := by
      cases h : form.theme <;> simp [themeStyle, h, Code.importLines, startsImport]
    rw [code, component]
    simp only [Code.importLines_seq_cons, Code.importLines_gap, htheme,
      importLines_componentImports]
    simp [Code.importLines, startsImport]
  | schema => simp [code, schema, imports, Code.importLines, startsImport, Import.code, Import.line]
  | serverAction =>
    rw [code, serverActionCode]
    simp only [Code.importLines_seq_cons, Code.importLines_gap, importLines_serverImports]
    simp [Code.importLines, startsImport, imports]
  | apiRoute =>
    cases h : form.routing with
    | app =>
      rw [code, apiRouteCode, h]
      simp only [appRoute, Code.importLines_seq_cons, Code.importLines_gap, Code.importLines_code,
        importLines_serverImports]
      simp [Code.importLines, startsImport, imports, h]
    | pages =>
      rw [code, apiRouteCode, h]
      simp only [pagesRoute, Code.importLines_seq_cons, Code.importLines_gap, Code.importLines_code,
        importLines_serverImports]
      simp [Code.importLines, startsImport, imports, h]
  | databaseClient =>
    rw [code, databaseClientCode]
    have hconnection : databaseConnection.importLines =
        [(Import.named ["MongoClient", "MongoClientOptions"] "mongodb").line] := by
      simp only [databaseConnection, Code.importLines_seq_cons, Code.importLines_gap,
        Code.importLines_code]
      simp [Code.importLines, startsImport]
    simp only [Code.importLines_seq_cons, Code.importLines_gap, hconnection]
    cases h : form.storage <;> simp [Code.importLines, startsImport, imports]
  | snapshot => rfl

end Form

/-! ## Exports -/

/-- A line that exports a name. -/
def ExportsName (name l : String) : Prop :=
  ("export const " ++ name ++ " =").toList <+: l.toList ∨
    ("export async function " ++ name ++ "(").toList <+: l.toList

/-- Every name that is imported is exported by some line. -/
def Import.ExportedBy (lines : List String) : Import → Prop
  | named names _ | types names _ => ∀ n ∈ names, ∃ l ∈ lines, ExportsName n l
  | default name _ => "export default " ++ name ++ ";" ∈ lines

theorem ExportsName.ne_empty {name l : String} (h : ExportsName name l) : l ≠ "" := by
  rintro rfl
  rcases h with h | h
  · simp at h
  · simp at h

theorem Import.ExportedBy.mono {as bs : List String} (hsub : ∀ l ∈ as, l ≠ "" → l ∈ bs)
    {i : Import} (h : i.ExportedBy as) : i.ExportedBy bs := by
  cases i with
  | named names source =>
    intro n hn
    obtain ⟨l, hl, hexports⟩ := h n hn
    exact ⟨l, hsub l hl hexports.ne_empty, hexports⟩
  | types names source =>
    intro n hn
    obtain ⟨l, hl, hexports⟩ := h n hn
    exact ⟨l, hsub l hl hexports.ne_empty, hexports⟩
  | default name source =>
    refine hsub _ h ?_
    intro hempty
    exact absurd (congrArg String.toList hempty) (by simp)

namespace Form

variable {form : Form}

theorem exportsName_schema (form : Form) :
    ∃ l ∈ form.schema.topTexts, ExportsName form.naming.schemaSymbol l := by
  refine ⟨"export const " ++ form.naming.schemaSymbol ++ " = z.object(\x7b", ?_, .inl ?_⟩
  · simp [schema]
  · exact ⟨" z.object(\x7b".toList, by simp⟩

theorem exportsName_serverAction (form : Form) :
    ∃ l ∈ form.serverActionCode.topTexts, ExportsName form.naming.actionSymbol l := by
  refine ⟨"export async function " ++ form.naming.actionSymbol ++ "(data: unknown) \x7b", ?_,
    .inr ?_⟩
  · simp [serverActionCode]
  · exact ⟨"data: unknown) \x7b".toList, by simp⟩

theorem exportsDefault_databaseClient (form : Form) :
    "export default " ++ "clientPromise" ++ ";" ∈ form.databaseClientCode.topTexts := by
  have hline : "export default clientPromise;" ∈ form.databaseClientCode.topTexts := by
    simp [databaseClientCode, databaseConnection]
  exact hline

/-! ## Where imports lead -/

/-- An import that is read back from its line and that leads, if its specifier is relative, to an
artifact of the form with the exports it needs. -/
def Links (form : Form) (source : Role) (i : Import) : Prop :=
  i.WellFormed ∧ (i.source.toList.head? = some '.' →
    ∃ target ∈ form.roles, i.source = form.naming.importPath source target ∧
      i.ExportedBy (form.code target).topTexts)

theorem Valid.quote_notMem_importPath (h : form.Valid) (source target : Role) :
    '\x27' ∉ (form.naming.importPath source target).toList := by
  intro hc
  rcases Naming.mem_toList_importPath h.name hc with hslash | hdot | hword
  · exact absurd hslash (by decide)
  · exact absurd hdot (by decide)
  · exact absurd hword (by decide)

theorem Valid.links_schemaImport (h : form.Valid) (source : Role) :
    form.Links source (form.naming.schemaImport source) := by
  refine ⟨⟨h.quote_notMem_importPath _ _, List.cons_ne_nil _ _, fun n hn => ?_⟩, fun _ => ?_⟩
  · rw [List.mem_singleton.mp hn]
    exact Import.isName_of_isIdentifier (isIdentifier_append h.name (by decide))
  · refine ⟨.schema, by simp [roles], rfl, fun n hn => ?_⟩
    rw [List.mem_singleton.mp hn]
    exact form.exportsName_schema

theorem Valid.links_actionImport (h : form.Valid) (haction : form.serverAction = true)
    (source : Role) :
    form.Links source (.named [form.naming.actionSymbol]
      (form.naming.importPath source .serverAction)) := by
  refine ⟨⟨h.quote_notMem_importPath _ _, List.cons_ne_nil _ _, fun n hn => ?_⟩, fun _ => ?_⟩
  · rw [List.mem_singleton.mp hn]
    exact Import.isName_of_isIdentifier (isIdentifier_append h.name (by decide))
  · refine ⟨.serverAction, by simp [roles, haction], rfl, fun n hn => ?_⟩
    rw [List.mem_singleton.mp hn]
    exact form.exportsName_serverAction

theorem Valid.links_databaseImport (h : form.Valid) (hstorage : form.storage.isSome = true)
    (source : Role) :
    form.Links source (.default "clientPromise"
      (form.naming.importPath source .databaseClient)) := by
  refine ⟨⟨h.quote_notMem_importPath _ _, by decide⟩, fun _ => ?_⟩
  exact ⟨.databaseClient, by simp [roles, hstorage], rfl, form.exportsDefault_databaseClient⟩

theorem Valid.links_serverImportList (h : form.Valid) (source : Role) :
    ∀ i ∈ form.serverImportList source, form.Links source i := by
  intro i hi
  rcases List.mem_cons.mp hi with rfl | hi
  · exact h.links_schemaImport source
  · split at hi
    · next hstorage =>
      rw [List.mem_singleton.mp hi]
      exact h.links_databaseImport hstorage source
    · exact absurd hi List.not_mem_nil

/-- An import from elsewhere, whose names cannot be taken for a server action. -/
def IsExternal (i : Import) : Prop :=
  i.WellFormed ∧ i.source.toList.head? ≠ some '.' ∧ ∀ n ∈ i.names, ¬"Action".toList <:+ n.toList

instance (i : Import) : Decidable (IsExternal i) :=
  inferInstanceAs (Decidable (_ ∧ _ ∧ ∀ n ∈ i.names, _))

theorem IsExternal.links {i : Import} (h : IsExternal i) (source : Role) : form.Links source i :=
  ⟨h.1, fun hdot => absurd hdot h.2.1⟩

theorem isExternal_packageImports (form : Form) : ∀ i ∈ form.packageImports, IsExternal i := by
  intro i hi
  rcases List.mem_append.mp hi with hi | hi
  · simp only [List.mem_cons, List.not_mem_nil, or_false] at hi
    rcases hi with rfl | rfl | rfl | rfl
    · split <;> decide
    · decide
    · decide
    · decide
  · obtain ⟨-, rfl⟩ := List.mem_ite_nil_right.mp hi |>.imp_right List.mem_singleton.mp
    decide

theorem isExternal_libraryImports (form : Form) : ∀ i ∈ form.libraryImports, IsExternal i := by
  intro i hi
  simp only [libraryImports, List.mem_append, List.mem_ite_nil_right, List.mem_singleton] at hi
  rcases hi with (((rfl | ⟨-, rfl⟩) | ⟨-, rfl⟩) | rfl) | ⟨-, rfl⟩
  · decide
  · decide
  · decide
  · decide
  · decide

/-- All imports of a valid form lead somewhere. -/
theorem Valid.links_imports (h : form.Valid) (role : Role) :
    ∀ i ∈ form.imports role, form.Links role i := by
  intro i hi
  cases role with
  | component =>
    rcases List.mem_append.mp hi with hi | hi
    · rcases List.mem_append.mp hi with hi | hi
      · exact (form.isExternal_packageImports i hi).links _
      · exact (form.isExternal_libraryImports i hi).links _
    · rcases List.mem_cons.mp hi with rfl | hi
      · exact h.links_schemaImport _
      · split at hi
        · next haction =>
          rw [List.mem_singleton.mp hi]
          exact h.links_actionImport haction _
        · exact absurd hi List.not_mem_nil
  | schema =>
    rw [List.mem_singleton.mp hi]
    exact IsExternal.links (by decide) _
  | serverAction => exact h.links_serverImportList _ i hi
  | apiRoute =>
    rcases List.mem_cons.mp hi with rfl | hi
    · split
      · exact IsExternal.links (by decide) _
      · exact IsExternal.links (by decide) _
    · exact h.links_serverImportList _ i hi
  | databaseClient =>
    rw [List.mem_singleton.mp hi]
    exact IsExternal.links (by decide) _
  | snapshot => exact absurd hi List.not_mem_nil

end Form

end FormScaffold
