import FormScaffold.Proofs.Artifact.Modules

/-!
# Names at module level

The names that a module binds are those of its import lines and those that its unindented lines
declare.  In a generated module no name is bound twice, with one exception: the component of a form
called `use` has the name of an import (`Form.boundTwice_iff`).
-/

namespace FormScaffold

/-! ## Reading names -/

/-- The name that an item of an import list binds; the word `type` may stand before it. -/
def boundName (item : String) : String :=
  match item.toList.dropPrefix? "type ".toList with
  | some rest => String.ofList rest
  | none => item

/-- The names that a line imports. -/
def importedBy (l : String) : List String :=
  if startsImport l then
    match Import.read? l with
    | some i => i.names.map boundName
    | none => []
  else []

/-- What stands behind a word, if it is there. -/
def skipWord (word : String) (cs : List Char) : List Char := (cs.dropPrefix? word.toList).getD cs

/-- The words that begin a declaration, each with a space. -/
def declarationWords : List String := ["const ", "let ", "type ", "function "]

/-- The names that a line declares: what stands behind `const`, `let`, `type` or `function`. -/
def declaredBy (l : String) : List String :=
  let cs := skipWord "async " (skipWord "default " (skipWord "export " l.toList))
  match declarationWords.findSome? fun word => cs.dropPrefix? word.toList with
  | some rest => [String.ofList (rest.takeWhile continuesIdentifier)]
  | none => []

/-- The names that a text binds by unindented lines. -/
def moduleNames (text : String) : List String :=
  (Text.sourceLines text).flatMap importedBy ++ (Text.sourceLines text).flatMap declaredBy

/-! ## Names that a line declares -/

theorem declaredBy_append {head : String}
    (hhead : head ∈ ["const ", "export const ", "export type ", "export default function ",
      "export async function "])
    {name tail : String} (hname : isIdentifier name = true)
    (htail : tail.toList.head?.any continuesIdentifier = false) :
    declaredBy (head ++ name ++ tail) = [name] := by
  have htake : (name.toList ++ tail.toList).takeWhile continuesIdentifier = name.toList := by
    rw [List.takeWhile_append_of_pos (continuesIdentifier_of_mem hname)]
    cases htail' : tail.toList with
    | nil => simp
    | cons c cs =>
      have hc : continuesIdentifier c = false := by simpa [htail'] using htail
      simp [hc]
  have hread : declaredBy (head ++ name ++ tail) =
      [String.ofList ((name.toList ++ tail.toList).takeWhile continuesIdentifier)] := by
    simp only [List.mem_cons, List.not_mem_nil, or_false] at hhead
    rcases hhead with rfl | rfl | rfl | rfl | rfl <;>
      simp [declaredBy, declarationWords, skipWord, List.dropPrefix?]
  rw [hread, htake, String.ofList_toList]

/-- A line that is moved in, or empty, binds nothing at module level. -/
theorem importedBy_of_head {l : String} (h : ∀ c ∈ l.toList.head?, c = ' ') :
    importedBy l = [] := by
  rw [importedBy, if_neg]
  intro himport
  obtain ⟨rest, hrest⟩ := List.isPrefixOf_iff_prefix.mp himport
  exact absurd (h 'i' (by rw [← hrest]; rfl)) (by decide)

theorem declaredBy_of_head {l : String} (h : ∀ c ∈ l.toList.head?, c = ' ') :
    declaredBy l = [] := by
  cases hl : l.toList with
  | nil => simp [declaredBy, declarationWords, skipWord, hl, List.dropPrefix?]
  | cons c cs =>
    obtain rfl := h c (by rw [hl]; rfl)
    simp [declaredBy, declarationWords, skipWord, hl, List.dropPrefix?]

/-- An import declares nothing. -/
theorem declaredBy_line (i : Import) : declaredBy i.line = [] := by
  cases i <;> simp [declaredBy, declarationWords, skipWord, Import.line, List.dropPrefix?]

namespace Code

/-- What is read off unindented lines is read off the lines of the tree that are not moved in. -/
theorem flatMap_sourceLines_render {code : Code} (h : code.FeedFree) {f : String → List String}
    (hf : ∀ l, (∀ c ∈ l.toList.head?, c = ' ') → f l = []) :
    (Text.sourceLines code.render).flatMap f = code.topTexts.flatMap f := by
  rw [flatMap_sourceLines h (hf "" (by simp)), topTexts]
  induction code.lines 0 with
  | nil => rfl
  | cons m ms ih =>
    rw [List.flatMap_cons, ih]
    by_cases hzero : m.1 = 0
    · rw [List.filter_cons_of_pos (by simpa using hzero), List.map_cons, List.flatMap_cons, hzero,
        indented_zero]
    · have hmoved : f (indented m.1 m.2) = [] := by
        refine hf _ fun c hc => ?_
        rw [toList_indented, show 2 * m.1 = (2 * m.1 - 1) + 1 by omega, List.replicate_succ] at hc
        exact (Option.some.inj hc).symm
      rw [List.filter_cons_of_neg (by simpa using hzero), hmoved, List.nil_append]

theorem flatMap_topTexts_imported (code : Code) :
    code.topTexts.flatMap importedBy = code.importLines.flatMap importedBy := by
  rw [importLines]
  induction code.topTexts with
  | nil => rfl
  | cons t ts ih =>
    by_cases ht : startsImport t = true
    · rw [List.filter_cons_of_pos ht, List.flatMap_cons, List.flatMap_cons, ih]
    · rw [List.filter_cons_of_neg ht, List.flatMap_cons, importedBy, if_neg ht, ih]
      rfl

end Code

/-! ## Names of the artifacts -/

/-- The names that an import binds. -/
def Import.bound (i : Import) : List String := i.names.map boundName

namespace Form

variable {form : Form}

/-- The names that an artifact declares. -/
def declarations (form : Form) : Role → List String
  | .component =>
    (if form.theme.isSome then ["themeStyle"] else []) ++ [form.naming.componentSymbol]
  | .schema => [form.naming.schemaSymbol, form.naming.valuesSymbol]
  | .serverAction => [form.naming.actionSymbol]
  | .apiRoute =>
    match form.routing with
    | .app => ["POST"]
    | .pages => ["handler"]
  | .databaseClient =>
    ["uri", "options", "client", "clientPromise"] ++
      if form.storage.isSome then ["databaseName", "collectionName"] else []
  | .snapshot => []

theorem Valid.imported_code (h : form.Valid) (role : Role) :
    (form.code role).topTexts.flatMap importedBy = (form.imports role).flatMap Import.bound := by
  rw [Code.flatMap_topTexts_imported, importLines_code, List.flatMap_map]
  refine List.flatMap_congr fun i hi => ?_
  rw [importedBy, if_pos (startsImport_line i), Import.read?_line (h.links_imports role i hi).1]
  rfl

theorem declared_serverImports (form : Form) (source : Role) :
    (form.serverImports source).topTexts.flatMap declaredBy = [] := by
  simp only [serverImports, Code.topTexts_seq_cons, Code.topTexts_seq_nil, Code.topTexts_when,
    Import.code, Code.topTexts_line, List.flatMap_append, apply_ite (List.flatMap declaredBy),
    List.flatMap_singleton, declaredBy_line, List.flatMap_nil, ite_self, List.append_nil]

theorem declared_componentImports (form : Form) :
    form.componentImports.topTexts.flatMap declaredBy = [] := by
  simp only [componentImports, Code.topTexts_seq_cons, Code.topTexts_seq_nil, Code.topTexts_when,
    Import.code, Code.topTexts_line, List.flatMap_append, apply_ite (List.flatMap declaredBy),
    List.flatMap_singleton, declaredBy_line, List.flatMap_nil, ite_self, List.append_nil]

theorem declared_themeStyle (form : Form) :
    form.themeStyle.topTexts.flatMap declaredBy =
      if form.theme.isSome then ["themeStyle"] else [] := by
  rw [themeStyle]
  cases form.theme with
  | none => rfl
  | some theme => rfl

theorem Valid.declared_component (h : form.Valid) :
    form.component.topTexts.flatMap declaredBy = form.declarations .component := by
  have hopening : declaredBy ("export default function " ++ form.naming.componentSymbol ++
      "() \x7b") = [form.naming.componentSymbol] :=
    declaredBy_append (by decide) (isIdentifier_append h.name (by decide)) (by decide)
  simp only [component, Code.topTexts_seq_cons, Code.topTexts_seq_nil, Code.topTexts_line,
    Code.topTexts_gap, Code.topTexts_block, List.flatMap_append, declared_componentImports,
    declared_themeStyle, List.flatMap_cons, List.flatMap_nil, hopening]
  rfl

theorem Valid.declared_schema (h : form.Valid) :
    form.schema.topTexts.flatMap declaredBy = form.declarations .schema := by
  have hopening : declaredBy ("export const " ++ form.naming.schemaSymbol ++
      " = z.object(\x7b") = [form.naming.schemaSymbol] :=
    declaredBy_append (by decide) (isIdentifier_append h.name (by decide)) (by decide)
  have htype : declaredBy ("export type " ++ form.naming.valuesSymbol ++ " = " ++
      form.naming.valuesType ++ ";") = [form.naming.valuesSymbol] := by
    rw [String.append_assoc, String.append_assoc]
    refine declaredBy_append (by decide) (isIdentifier_append h.name (by decide)) ?_
    simp [continuesIdentifier]
  simp only [schema, Code.topTexts_seq_cons, Code.topTexts_seq_nil, Code.topTexts_line,
    Code.topTexts_gap, Code.topTexts_block, Import.code, List.flatMap_append, List.flatMap_cons,
    List.flatMap_nil, declaredBy_line, hopening, htype]
  rfl

theorem Valid.declared_serverActionCode (h : form.Valid) :
    form.serverActionCode.topTexts.flatMap declaredBy = form.declarations .serverAction := by
  have hopening : declaredBy ("export async function " ++ form.naming.actionSymbol ++
      "(data: unknown) \x7b") = [form.naming.actionSymbol] :=
    declaredBy_append (by decide) (isIdentifier_append h.name (by decide)) (by decide)
  simp only [serverActionCode, Code.topTexts_seq_cons, Code.topTexts_seq_nil, Code.topTexts_line,
    Code.topTexts_gap, Code.topTexts_block, List.flatMap_append, declared_serverImports,
    List.flatMap_cons, List.flatMap_nil, hopening]
  rfl

theorem declared_apiRouteCode (form : Form) :
    form.apiRouteCode.topTexts.flatMap declaredBy = form.declarations .apiRoute := by
  cases h : form.routing with
  | app =>
    simp only [apiRouteCode, h, appRoute, Code.topTexts_seq_cons, Code.topTexts_seq_nil,
      Code.topTexts_gap, Code.topTexts_block, Import.code, Code.topTexts_line,
      List.flatMap_append, declared_serverImports, List.flatMap_cons, List.flatMap_nil,
      declaredBy_line, declarations]
    decide +kernel
  | pages =>
    simp only [apiRouteCode, h, pagesRoute, Code.topTexts_seq_cons, Code.topTexts_seq_nil,
      Code.topTexts_gap, Code.topTexts_block, Import.code, Code.topTexts_line,
      List.flatMap_append, declared_serverImports, List.flatMap_cons, List.flatMap_nil,
      declaredBy_line, declarations]
    decide +kernel

theorem declared_databaseConnection :
    databaseConnection.topTexts.flatMap declaredBy =
      ["uri", "options", "client", "clientPromise"] := by
  decide +kernel

theorem declaredBy_export {name : String} (h : isIdentifier name = true) (value : String) :
    declaredBy ("export const " ++ name ++ (" = " ++ value ++ ";")) = [name] :=
  declaredBy_append (by decide) h (by simp [continuesIdentifier])

theorem declared_databaseClientCode (form : Form) :
    form.databaseClientCode.topTexts.flatMap declaredBy = form.declarations .databaseClient := by
  have hdatabase (value : String) :
      declaredBy ("export const databaseName = " ++ value ++ ";") = ["databaseName"] := by
    have hname : isIdentifier "databaseName" = true := by decide
    rw [← declaredBy_export hname value]
    exact congrArg declaredBy (String.toList_injective (by simp))
  have hcollection (value : String) :
      declaredBy ("export const collectionName = " ++ value ++ ";") = ["collectionName"] := by
    have hname : isIdentifier "collectionName" = true := by decide
    rw [← declaredBy_export hname value]
    exact congrArg declaredBy (String.toList_injective (by simp))
  simp only [databaseClientCode, Code.topTexts_seq_cons, Code.topTexts_seq_nil, Code.topTexts_gap,
    List.flatMap_append, declared_databaseConnection, declarations]
  cases form.storage with
  | none => rfl
  | some storage =>
    simp only [Code.topTexts_seq_cons, Code.topTexts_seq_nil, Code.topTexts_line,
      List.flatMap_append, List.flatMap_cons, List.flatMap_nil, hdatabase, hcollection]
    rfl

theorem Valid.declared_code (h : form.Valid) (role : Role) :
    (form.code role).topTexts.flatMap declaredBy = form.declarations role := by
  cases role with
  | component => exact h.declared_component
  | schema => exact h.declared_schema
  | serverAction => exact h.declared_serverActionCode
  | apiRoute => exact form.declared_apiRouteCode
  | databaseClient => exact form.declared_databaseClientCode
  | snapshot => rfl

/-- The names that an artifact binds are those of its imports and its declarations. -/
theorem Valid.moduleNames_contents (h : form.Valid) {role : Role} (hrole : role ≠ .snapshot) :
    moduleNames (form.contents role) =
      (form.imports role).flatMap Import.bound ++ form.declarations role := by
  have hfeed := (h.turns_code role).2
  rw [form.contents_eq_render hrole, moduleNames,
    Code.flatMap_sourceLines_render hfeed fun _ => importedBy_of_head,
    Code.flatMap_sourceLines_render hfeed fun _ => declaredBy_of_head, h.imported_code,
    h.declared_code]

/-! ## Names of imports -/

theorem boundName_of_isIdentifier {s : String} (h : isIdentifier s = true) : boundName s = s := by
  have hnone : s.toList.dropPrefix? "type ".toList = none := by
    rw [Option.eq_none_iff_forall_not_mem]
    intro rest hrest
    obtain ⟨opening, hcut, hopening⟩ := List.dropPrefix?_eq_some_iff.mp hrest
    rw [beq_iff_eq] at hopening
    have hspace : continuesIdentifier ' ' = true :=
      continuesIdentifier_of_mem h ' ' (by simp [hcut, hopening])
    exact absurd hspace (by decide)
  rw [boundName, hnone]

theorem Valid.bound_schemaImport (h : form.Valid) (source : Role) :
    (form.naming.schemaImport source).bound = [form.naming.schemaSymbol] :=
  congrArg (fun n => [n]) (boundName_of_isIdentifier (isIdentifier_append h.name (by decide)))

theorem Valid.bound_serverImportList (h : form.Valid) (source : Role) :
    (form.serverImportList source).flatMap Import.bound =
      form.naming.schemaSymbol :: if form.storage.isSome then ["clientPromise"] else [] := by
  rw [serverImportList, List.flatMap_cons, h.bound_schemaImport]
  cases form.storage with
  | none => rfl
  | some storage => rfl

/-- What the component imports from elsewhere. -/
def externalNames (form : Form) : List String :=
  (form.packageImports ++ form.libraryImports).flatMap Import.bound

/-- The names of the component besides those from elsewhere and its own symbol. -/
def sharedNames (form : Form) : List String :=
  [form.naming.schemaSymbol] ++ (if form.serverAction then [form.naming.actionSymbol] else []) ++
    if form.theme.isSome then ["themeStyle"] else []

theorem Valid.names_component (h : form.Valid) :
    (form.imports .component).flatMap Import.bound ++ form.declarations .component =
      form.externalNames ++ form.sharedNames ++ [form.naming.componentSymbol] := by
  have haction : (Import.named [form.naming.actionSymbol]
      (form.naming.importPath .component .serverAction)).bound = [form.naming.actionSymbol] :=
    congrArg (fun n => [n]) (boundName_of_isIdentifier (isIdentifier_append h.name (by decide)))
  rw [imports, List.flatMap_append, List.flatMap_cons, h.bound_schemaImport, ← externalNames,
    sharedNames, declarations]
  cases form.serverAction with
  | false => simp
  | true => simp [haction]

/-! ## Distinct names -/

/-- A name that is no symbol of a form, unless it is that of the component of the form `use`. -/
def IsForeign (n : String) : Prop :=
  n ≠ "themeStyle" ∧ ¬"Schema".toList <:+ n.toList ∧ ¬"Action".toList <:+ n.toList ∧
    ("Form".toList <:+ n.toList → n ∈ ["useForm", "Form"])

instance (n : String) : Decidable (IsForeign n) := inferInstanceAs (Decidable (_ ∧ _ ∧ _ ∧ _))

theorem nodup_externalNames (form : Form) : form.externalNames.Nodup := by
  rw [externalNames, packageImports, libraryImports]
  split_ifs <;> decide

theorem isForeign_externalNames (form : Form) : ∀ n ∈ form.externalNames, IsForeign n := by
  rw [externalNames, packageImports, libraryImports]
  split_ifs <;> decide

theorem useForm_mem_externalNames (form : Form) : "useForm" ∈ form.externalNames :=
  List.mem_flatMap.mpr ⟨.named ["useForm"] "react-hook-form", by simp [packageImports], by decide⟩

theorem suffix_schemaSymbol (form : Form) :
    "Schema".toList <:+ form.naming.schemaSymbol.toList :=
  ⟨form.name.toList, by simp [Naming.schemaSymbol, naming]⟩

theorem suffix_actionSymbol (form : Form) :
    "Action".toList <:+ form.naming.actionSymbol.toList :=
  ⟨form.name.toList, by simp [Naming.actionSymbol, naming]⟩

theorem suffix_valuesSymbol (form : Form) :
    "Values".toList <:+ form.naming.valuesSymbol.toList :=
  ⟨form.name.toList, by simp [Naming.valuesSymbol, naming]⟩

theorem suffix_componentSymbol (form : Form) :
    "Form".toList <:+ form.naming.componentSymbol.toList :=
  ⟨form.name.toList, by simp [Naming.componentSymbol, naming]⟩

/-- A text that does not end as a symbol does is another one. -/
theorem ne_of_suffix {suffix symbol n : String} (h : suffix.toList <:+ symbol.toList)
    (hn : ¬suffix.toList <:+ n.toList) : symbol ≠ n := by
  rintro rfl
  exact hn h

theorem schemaSymbol_ne_actionSymbol (form : Form) :
    form.naming.schemaSymbol ≠ form.naming.actionSymbol := by
  intro h
  rw [Naming.schemaSymbol, Naming.actionSymbol, String.append_right_inj] at h
  exact absurd h (by decide)

theorem schemaSymbol_ne_valuesSymbol (form : Form) :
    form.naming.schemaSymbol ≠ form.naming.valuesSymbol := by
  intro h
  rw [Naming.schemaSymbol, Naming.valuesSymbol, String.append_right_inj] at h
  exact absurd h (by decide)

theorem nodup_sharedNames (form : Form) : form.sharedNames.Nodup := by
  have hschema := ne_of_suffix form.suffix_schemaSymbol (n := "themeStyle") (by decide)
  have haction := ne_of_suffix form.suffix_actionSymbol (n := "themeStyle") (by decide)
  rw [sharedNames]
  cases form.serverAction <;> cases form.theme <;>
    simp [hschema, haction, form.schemaSymbol_ne_actionSymbol]

/-- Apart from its own symbol, the component has no name twice. -/
theorem nodup_external_shared (form : Form) : (form.externalNames ++ form.sharedNames).Nodup := by
  refine List.nodup_append.mpr ⟨form.nodup_externalNames, form.nodup_sharedNames, ?_⟩
  rintro a ha b hb rfl
  obtain ⟨htheme, hschema, haction, -⟩ := form.isForeign_externalNames a ha
  simp only [sharedNames, List.mem_append, List.mem_singleton, List.mem_ite_nil_right] at hb
  rcases hb with (rfl | ⟨-, rfl⟩) | ⟨-, rfl⟩
  · exact hschema form.suffix_schemaSymbol
  · exact haction form.suffix_actionSymbol
  · exact htheme rfl

/-- The component's symbol is one of its other names only if the form is called `use`. -/
theorem Valid.componentSymbol_mem_iff (h : form.Valid) :
    form.naming.componentSymbol ∈ form.externalNames ++ form.sharedNames ↔ form.name = "use" := by
  have hsymbol : form.naming.componentSymbol = form.name ++ "Form" := rfl
  constructor
  · intro hmem
    rcases List.mem_append.mp hmem with hmem | hmem
    · have hform := (form.isForeign_externalNames _ hmem).2.2.2 form.suffix_componentSymbol
      rcases List.mem_pair.mp hform with heq | heq
      · exact (String.append_left_inj "Form").mp heq
      · have hempty : form.name = "" := (String.append_left_inj "Form").mp heq
        exact absurd hempty (ne_empty_of_isIdentifier h.name)
    · simp only [sharedNames, List.mem_append, List.mem_singleton, List.mem_ite_nil_right] at hmem
      rcases hmem with (heq | ⟨-, heq⟩) | ⟨-, heq⟩
      · exact absurd ((String.append_right_inj _).mp heq) (by decide)
      · exact absurd ((String.append_right_inj _).mp heq) (by decide)
      · exact absurd heq (ne_of_suffix form.suffix_componentSymbol (by decide))
  · intro hname
    have huse : form.naming.componentSymbol = "useForm" := by rw [hsymbol, hname]; rfl
    rw [huse]
    exact List.mem_append_left _ form.useForm_mem_externalNames

theorem Valid.nodup_names (h : form.Valid) {role : Role} (hrole : role ≠ .component) :
    ((form.imports role).flatMap Import.bound ++ form.declarations role).Nodup := by
  have hne {n : String} (hn : ¬"Schema".toList <:+ n.toList) : form.naming.schemaSymbol ≠ n :=
    ne_of_suffix form.suffix_schemaSymbol hn
  cases role with
  | component => exact absurd rfl hrole
  | schema =>
    have hvalues : form.naming.valuesSymbol ≠ "z" :=
      ne_of_suffix form.suffix_valuesSymbol (by decide)
    show ["z", form.naming.schemaSymbol, form.naming.valuesSymbol].Nodup
    simp [hvalues.symm, (hne (n := "z") (by decide)).symm, form.schemaSymbol_ne_valuesSymbol]
  | serverAction =>
    have haction : form.naming.actionSymbol ≠ "clientPromise" :=
      ne_of_suffix form.suffix_actionSymbol (by decide)
    rw [imports, h.bound_serverImportList, declarations]
    split <;> simp [hne (n := "clientPromise") (by decide), haction.symm,
      form.schemaSymbol_ne_actionSymbol]
  | apiRoute =>
    have hclient := hne (n := "clientPromise") (by decide)
    rw [imports, List.flatMap_cons, h.bound_serverImportList, declarations]
    cases form.routing with
    | app =>
      show (["NextResponse"] ++ _ ++ ["POST"]).Nodup
      have hresponse := hne (n := "NextResponse") (by decide)
      have hpost := hne (n := "POST") (by decide)
      split <;> simp [hclient, hresponse.symm, hpost]
    | pages =>
      show (["NextApiRequest", "NextApiResponse"] ++ _ ++ ["handler"]).Nodup
      have hrequest := hne (n := "NextApiRequest") (by decide)
      have hresponse := hne (n := "NextApiResponse") (by decide)
      have hhandler := hne (n := "handler") (by decide)
      split <;> simp [hclient, hrequest.symm, hresponse.symm, hhandler]
  | databaseClient =>
    show (["MongoClient", "MongoClientOptions"] ++ (["uri", "options", "client", "clientPromise"] ++
      if form.storage.isSome then ["databaseName", "collectionName"] else [])).Nodup
    split <;> decide
  | snapshot => exact List.nodup_nil

/-! ## All artifacts -/

/-- Behind distinct names, only the last one can be there twice. -/
theorem one_lt_count_concat_iff {names : List String} (h : names.Nodup) {last n : String} :
    1 < (names ++ [last]).count n ↔ n = last ∧ last ∈ names := by
  rw [List.count_append, List.count_singleton]
  by_cases hn : n = last
  · subst hn
    have := List.nodup_iff_count_le_one.mp h n
    simp
  · have := List.nodup_iff_count_le_one.mp h n
    simp [hn, Ne.symm hn]
    omega

/-- A name is bound twice at module level only in the component of a form called `use`, whose
symbol is that of the hook `useForm`. -/
theorem boundTwice_iff {artifacts : List Artifact} (h : form.generate = .ok artifacts) :
    ∀ a ∈ artifacts, a.role ≠ .snapshot → ∀ n, 1 < (moduleNames a.contents).count n ↔
      a.role = .component ∧ form.name = "use" ∧ n = "useForm" := by
  obtain ⟨hvalid, rfl⟩ := valid_of_generate h
  intro a ha hrole n
  obtain ⟨role, -, rfl⟩ := List.mem_map.mp ha
  have hnames : moduleNames (form.artifact role).contents = _ := hvalid.moduleNames_contents hrole
  rw [hnames]
  by_cases hcomponent : role = .component
  · subst hcomponent
    rw [hvalid.names_component, one_lt_count_concat_iff form.nodup_external_shared,
      hvalid.componentSymbol_mem_iff]
    constructor
    · rintro ⟨rfl, hname⟩
      exact ⟨rfl, hname, by rw [Naming.componentSymbol, naming, hname]; rfl⟩
    · rintro ⟨-, hname, rfl⟩
      exact ⟨by rw [Naming.componentSymbol, naming, hname]; rfl, hname⟩
  · have hle := List.nodup_iff_count_le_one.mp (hvalid.nodup_names hcomponent) n
    constructor
    · intro hlt
      exact absurd hlt (Nat.not_lt.mpr hle)
    · rintro ⟨hsame, -⟩
      exact absurd hsame hcomponent

/-- A form called like an import, with all that a component can have. -/
def importNamed : Form :=
  { named "z" with
    fields := [.named "Link" .textarea, .named "z" .text]
    buttons := [{ text := "Send", variant := .default }]
    layout := .card
    theme := some { primary := "#000000", secondary := "#ffffff" }
    storage := some { database := "crm", collection := "contacts" }
    serverAction := true
    link := some { text := "Home", target := "/" } }

theorem boundTwice_iff_importNamed :
    importNamed.generate = .ok importNamed.artifacts ∧
      ∀ a ∈ importNamed.artifacts, a.role ≠ .snapshot → (moduleNames a.contents).Nodup := by
  have h : importNamed.generate = .ok importNamed.artifacts :=
    generate_of_valid (by decide) (by decide)
  refine ⟨h, fun a ha hrole => List.nodup_iff_count_le_one.mpr fun n => ?_⟩
  by_contra hlt
  exact absurd ((boundTwice_iff h a ha hrole n).mp (by omega)).2.1 (by decide)

/-- A form whose component has the name of a hook that it imports. -/
def hookNamed : Form :=
  { named "use" with buttons := [{ text := "Send", variant := .default }] }

theorem hookNamed_boundTwice :
    hookNamed.generate = .ok hookNamed.artifacts ∧
      ¬(moduleNames (hookNamed.contents .component)).Nodup := by
  have h : hookNamed.generate = .ok hookNamed.artifacts :=
    generate_of_valid (by decide) (by decide)
  have hvalid : hookNamed.Valid := (valid_of_generate h).1
  refine ⟨h, ?_⟩
  rw [hvalid.moduleNames_contents (by decide), hvalid.names_component]
  decide

end Form

end FormScaffold
