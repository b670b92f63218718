import FormScaffold.Proofs.Artifact.Closed
import FormScaffold.Proofs.Naming.Import
import FormScaffold.Proofs.Text.Words
import FormScaffold.SetupSteps

/-!
# What the setup steps install

The modules that the artifacts import and the setup steps are derived from a form independently of
each other.  Here the steps are read as the commands that they are, the import lines as what they
need, and both agree: the steps install what is imported, and apart from the component of inputs
nothing else (`Form.setupSteps_install`).
-/

namespace FormScaffold

/-! ## Where modules come from -/

/-- What has to be there for a module to be found. -/
inductive ModuleOrigin where
  /-- A file of the application itself -/
  | own
  /-- What every application is made with -/
  | framework
  /-- A component of the application's library -/
  | library (component : String)
  | package (name : String)
deriving DecidableEq, Repr

/-- A specifier that starts at the directory of its file, or above it. -/
def isRelative (source : String) : Bool :=
  "./".toList.isPrefixOf source.toList || "../".toList.isPrefixOf source.toList

/-- A module of the framework itself. -/
def isFramework (source : String) : Bool :=
  source = "react" || source = "next" || "next/".toList.isPrefixOf source.toList

/-- The package of a module: the first segment of the specifier, with the second one if the first
is the scope of the package. -/
def packageName (source : String) : String :=
  "/".intercalate ((pathSegments source).take (if source.toList.head? = some '@' then 2 else 1))

/-- Where the module with a specifier comes from. -/
def moduleOrigin (source : String) : ModuleOrigin :=
  if isRelative source then .own
  else if isFramework source then .framework
  else match source.toList.dropPrefix? (Form.libraryModule "").toList with
    | some component => .library (String.ofList component)
    | none => .package (packageName source)

example : moduleOrigin "@hookform/resolvers/zod" = .package "@hookform/resolvers" := by decide

/-- A module comes from somewhere if an unindented import line of an artifact says so. -/
def ImportedFrom (artifacts : List Artifact) (origin : ModuleOrigin) : Prop :=
  ∃ a ∈ artifacts, ∃ l ∈ Text.sourceLines a.contents, startsImport l = true ∧
    ∃ i, Import.read? l = some i ∧ moduleOrigin i.source = origin

/-! ## What steps do -/

/-- The words behind a command, none if the step is another one. -/
def argumentsOf (command step : String) : List String :=
  (step.toList.dropPrefix? command.toList).elim [] fun rest => Text.words (String.ofList rest)

/-- The components that steps add to the library and the packages that they install. -/
def installedBy (steps : List String) : List ModuleOrigin :=
  (steps.flatMap (argumentsOf "npx shadcn@latest add ")).map .library ++
    (steps.flatMap (argumentsOf "npm install ")).map .package

/-- The variables of the environment that a step names: what stands before an equals sign in a
line. -/
def variablesSet (step : String) : List String :=
  (Text.sourceLines step).flatMap fun l =>
    ((Text.cutFirst (· = '=') l.toList).map fun (before, _) =>
      String.ofList (Text.trimChars before)).toList

/-- Whether a step is about the database. -/
def concernsDatabase (step : String) : Bool :=
  Text.occursIn "mongodb".toList (step.toList.map Char.toLower)

/-! ## Variables that are read -/

/-- The names behind all places where a text stands. -/
def namesBehind (opening : List Char) : List Char → List String
  | [] => []
  | c :: cs =>
    (((c :: cs).dropPrefix? opening).map fun rest =>
      String.ofList (rest.takeWhile continuesIdentifier)).toList ++ namesBehind opening cs

/-- Every other piece, the first one included. -/
def everyOther {α : Type} : List α → List α
  | [] => []
  | [a] => [a]
  | a :: _ :: rest => a :: everyOther rest

/-- The variables of the environment that a line reads, outside of double-quoted literals. -/
def variablesRead (l : String) : List String :=
  (everyOther (Text.split (· = '\x22') l.toList)).flatMap (namesBehind "process.env.".toList)

/-! ## Reading steps -/

theorem argumentsOf_append (command rest : String) :
    argumentsOf command (command ++ rest) = Text.words rest := by
  have hrest : (command ++ rest).toList.dropPrefix? command.toList = some rest.toList :=
    List.dropPrefix?_eq_some_iff.mpr ⟨command.toList, by simp, by simp⟩
  rw [argumentsOf, hrest, Option.elim_some, String.ofList_toList]

theorem variablesSet_of_notMem {step : String} (h : '=' ∉ step.toList) :
    variablesSet step = [] := by
  rw [variablesSet, List.flatMap_eq_nil_iff]
  intro l hl
  obtain ⟨piece, hpiece, rfl⟩ := List.mem_map.mp hl
  have hnone : Text.cutFirst (· = '=') piece = none := by
    refine Text.cutFirst_eq_none_iff.mpr fun c hc => decide_eq_false ?_
    rintro rfl
    exact h (Text.mem_of_mem_split hpiece hc).1
  rw [String.toList_ofList, hnone]
  rfl

/-! ## Reading variables -/

theorem namesBehind_replicate {opening : List Char} {c d : Char} (hne : c ≠ d) (n : Nat)
    (cs : List Char) :
    namesBehind (c :: opening) (List.replicate n d ++ cs) = namesBehind (c :: opening) cs := by
  induction n with
  | zero => rfl
  | succ n ih =>
    have hnone : (d :: (List.replicate n d ++ cs)).dropPrefix? (c :: opening) = none := by
      simp [List.dropPrefix?, hne.symm]
    rw [List.replicate_succ, List.cons_append, namesBehind, hnone, ih]
    rfl

/-- A line reads the same variables wherever it stands. -/
theorem variablesRead_indented (depth : Nat) (t : String) :
    variablesRead (Code.indented depth t) = variablesRead t := by
  have hspaces (cs : List Char) : namesBehind "process.env.".toList
      (List.replicate (2 * depth) ' ' ++ cs) = namesBehind "process.env.".toList cs :=
    namesBehind_replicate (by decide) _ cs
  have hquote : ∀ c ∈ List.replicate (2 * depth) ' ', decide (c = '\x22') = false := by
    intro c hc
    rw [List.eq_of_mem_replicate hc]
    rfl
  have hne : Text.split (· = '\x22') t.toList ≠ [] := Text.split_ne_nil t.toList
  obtain ⟨p, ps, hsplit⟩ := List.exists_cons_of_ne_nil hne
  rw [variablesRead, variablesRead, Code.toList_indented,
    Text.split_append_of_forall hquote hsplit, hsplit]
  cases ps with
  | nil => simp only [everyOther, List.flatMap_singleton, hspaces]
  | cons q ps => simp only [everyOther, List.flatMap_cons, hspaces]

/-- What stands in a literal is not read. -/
theorem variablesRead_literal {before name behind : String} (hbefore : '\x22' ∉ before.toList)
    (hname : isStorageName name = true) (hbehind : '\x22' ∉ behind.toList) :
    variablesRead (before ++ Quoted.literal name ++ behind) =
      namesBehind "process.env.".toList before.toList ++
        namesBehind "process.env.".toList behind.toList := by
  have hnotMem {cs : List Char} (h : '\x22' ∉ cs) : ∀ c ∈ cs, decide (c = '\x22') = false :=
    fun c hc => decide_eq_false fun hquote => h (hquote ▸ hc)
  have hquote : '\x22' ∉ name.toList := by
    intro hc
    rw [isStorageName, Bool.not_eq_true', List.any_eq_false] at hname
    exact hname _ hc (by decide)
  have hline : (before ++ Quoted.literal name ++ behind).toList =
      before.toList ++ '\x22' :: (name.toList ++ '\x22' :: behind.toList) := by
    rw [String.toList_append, String.toList_append,
      Quoted.toList_literal (escape_eq_singleton_of_isStorageName hname)]
    simp
  rw [variablesRead, hline, Text.split_append_cons (hnotMem hbefore) rfl,
    Text.split_append_cons (hnotMem hquote) rfl, Text.split_of_forall (hnotMem hbehind)]
  simp [everyOther]

namespace Form

variable {form : Form}

/-! ## The steps of a form -/

theorem mem_libraryComponents {component : String} (h : component ∈ form.libraryComponents) :
    component ∈ ["form", "input", "button", "textarea", "card"] := by
  simp only [libraryComponents, List.mem_append, List.mem_ite_nil_right, List.mem_singleton] at h
  rcases h with (h | ⟨-, rfl⟩) | ⟨-, rfl⟩
  · exact List.mem_append_left ["textarea", "card"] h
  · decide
  · decide

/-- The step that adds the components of a form to the library. -/
def componentsStep (form : Form) : String :=
  "npx shadcn@latest add " ++ " ".intercalate form.libraryComponents

theorem argumentsOf_componentsStep (form : Form) :
    argumentsOf "npx shadcn@latest add " form.componentsStep = form.libraryComponents := by
  delta componentsStep
  rw [argumentsOf_append, Text.words_intercalate]
  intro component hcomponent
  have hword : ∀ s ∈ ["form", "input", "button", "textarea", "card"],
      s.toList ≠ [] ∧ s.toList.all (fun c => !Text.isBlank c) = true := by decide
  obtain ⟨hne, hblank⟩ := hword component (mem_libraryComponents hcomponent)
  exact ⟨hne, fun c hc => by simpa using List.all_eq_true.mp hblank c hc⟩

/-- The characters of this step, whatever the form is. -/
theorem mem_toList_componentsStep {c : Char} (hc : c ∈ form.componentsStep.toList) :
    c ∈ "npx shadcn@latest add form input button textarea card".toList := by
  have hwords : ∀ s ∈ ["form", "input", "button", "textarea", "card"], s.toList.all
      ("npx shadcn@latest add form input button textarea card".toList.contains ·) = true := by
    decide +kernel
  have hcommand : "npx shadcn@latest add ".toList.all
      ("npx shadcn@latest add form input button textarea card".toList.contains ·) = true := by
    decide +kernel
  delta componentsStep at hc
  rw [String.toList_append, List.mem_append, String.toList_intercalate] at hc
  rcases hc with hc | hc
  · exact List.contains_iff_mem.mp (List.all_eq_true.mp hcommand c hc)
  · rcases Text.mem_intercalate hc with hc | ⟨piece, hpiece, hc⟩
    · rw [List.mem_singleton.mp hc]
      decide
    · obtain ⟨component, hcomponent, rfl⟩ := List.mem_map.mp hpiece
      have hword := hwords component (mem_libraryComponents hcomponent)
      exact List.contains_iff_mem.mp (List.all_eq_true.mp hword c hc)

/-- The steps that every form has besides. -/
def commonSteps : List String :=
  ["npm install react-hook-form @hookform/resolvers zod", "npx shadcn@latest init"]

/-- The steps of a form that stores its data. -/
def databaseSteps : List String :=
  [ "npm install mongodb",
    "Add your MongoDB connection string to .env:\n  " ++ databaseVariable ++
      "=your_mongodb_connection_string_here" ]

theorem setupSteps_eq (form : Form) :
    form.setupSteps = commonSteps ++ [form.componentsStep] ++
      if form.storage.isSome then databaseSteps else [] :=
  rfl

theorem flatMap_setupSteps {α : Type} (form : Form) (f : String → List α) :
    form.setupSteps.flatMap f = commonSteps.flatMap f ++ f form.componentsStep ++
      if form.storage.isSome then databaseSteps.flatMap f else [] := by
  rw [setupSteps_eq, List.flatMap_append, List.flatMap_append, List.flatMap_singleton,
    apply_ite (List.flatMap f), List.flatMap_nil]

/-- The components that the steps add are those that the form uses, and the packages are the ones
for forms and, if data is stored, that of the database. -/
theorem installedBy_setupSteps (form : Form) :
    installedBy form.setupSteps = form.libraryComponents.map .library ++
      (["react-hook-form", "@hookform/resolvers", "zod"] ++
        if form.storage.isSome then ["mongodb"] else []).map .package := by
  have hadded : form.setupSteps.flatMap (argumentsOf "npx shadcn@latest add ") =
      form.libraryComponents := by
    have hcommon : commonSteps.flatMap (argumentsOf "npx shadcn@latest add ") = [] := by
      decide +kernel
    have hdatabase : databaseSteps.flatMap (argumentsOf "npx shadcn@latest add ") = [] := by
      decide +kernel
    rw [flatMap_setupSteps, hcommon, hdatabase, ite_self, argumentsOf_componentsStep,
      List.nil_append, List.append_nil]
  have hinstalled : form.setupSteps.flatMap (argumentsOf "npm install ") =
      ["react-hook-form", "@hookform/resolvers", "zod"] ++
        if form.storage.isSome then ["mongodb"] else [] := by
    have hcommon : commonSteps.flatMap (argumentsOf "npm install ") =
        ["react-hook-form", "@hookform/resolvers", "zod"] := by decide +kernel
    have hdatabase : databaseSteps.flatMap (argumentsOf "npm install ") = ["mongodb"] := by
      decide +kernel
    have hcomponents : argumentsOf "npm install " form.componentsStep = [] := by
      delta componentsStep
      simp [argumentsOf, List.dropPrefix?]
    rw [flatMap_setupSteps, hcommon, hdatabase, hcomponents, List.append_nil]
  rw [installedBy, hadded, hinstalled]

theorem variablesSet_setupSteps (form : Form) :
    form.setupSteps.flatMap variablesSet =
      if form.storage.isSome then [databaseVariable] else [] := by
  have hcommon : commonSteps.flatMap variablesSet = [] := by decide +kernel
  have hdatabase : databaseSteps.flatMap variablesSet = [databaseVariable] := by decide +kernel
  have hcomponents : variablesSet form.componentsStep = [] :=
    variablesSet_of_notMem fun hc => absurd (mem_toList_componentsStep hc) (by decide)
  rw [flatMap_setupSteps, hcommon, hdatabase, hcomponents, List.nil_append, List.nil_append]

/-- Steps about the database are there only for a form that stores its data. -/
theorem storage_of_concernsDatabase {step : String} (hstep : step ∈ form.setupSteps)
    (h : concernsDatabase step = true) : form.storage.isSome = true := by
  rw [setupSteps_eq] at hstep
  rcases List.mem_append.mp hstep with hstep | hstep
  · rcases List.mem_append.mp hstep with hstep | hstep
    · have hcommon : ∀ s ∈ commonSteps, concernsDatabase s = false := by decide +kernel
      exact absurd h (by simp [hcommon step hstep])
    · -- no component has the letter in its name
      have hletter : "npx shadcn@latest add form input button textarea card".toList.all
          (·.toLower ≠ 'g') = true := by decide +kernel
      rw [List.mem_singleton.mp hstep, concernsDatabase, Text.occursIn_iff_isInfix] at h
      have hmem : 'g' ∈ "mongodb".toList := by decide
      obtain ⟨c, hc, hlower⟩ := List.mem_map.mp (h.subset hmem)
      have hne := List.all_eq_true.mp hletter c (mem_toList_componentsStep hc)
      exact absurd hlower (by simpa using hne)
  · exact (List.mem_ite_nil_right.mp hstep).1

/-! ## What the artifacts import -/

theorem moduleOrigin_importPath (names : Naming) (source target : Role) :
    moduleOrigin (names.importPath source target) = .own := by
  have hrelative : isRelative (names.importPath source target) = true := by
    rw [isRelative, Bool.or_eq_true, List.isPrefixOf_iff_prefix, List.isPrefixOf_iff_prefix]
    exact isPrefix_relativeImport (names.path source) (names.path target)
  rw [moduleOrigin, if_pos hrelative]

/-- What has to be there for an import is there after the steps. -/
def Serves (form : Form) (i : Import) : Prop :=
  moduleOrigin i.source = .own ∨ moduleOrigin i.source = .framework ∨
    moduleOrigin i.source ∈ installedBy form.setupSteps

theorem serves_schemaImport (form : Form) (source : Role) :
    form.Serves (form.naming.schemaImport source) := by
  rw [Serves, Naming.schemaImport, Import.source, moduleOrigin_importPath]
  exact .inl rfl

theorem serves_actionImport (form : Form) (source : Role) :
    form.Serves
      (.named [form.naming.actionSymbol] (form.naming.importPath source .serverAction)) := by
  rw [Serves, Import.source, moduleOrigin_importPath]
  exact .inl rfl

theorem serves_databaseImport (form : Form) (source : Role) :
    form.Serves (.default "clientPromise" (form.naming.importPath source .databaseClient)) := by
  rw [Serves, Import.source, moduleOrigin_importPath]
  exact .inl rfl

theorem serves_of_package {i : Import} {name : String} (h : moduleOrigin i.source = .package name)
    (hname : name ∈ ["react-hook-form", "@hookform/resolvers", "zod"]) : form.Serves i := by
  refine .inr (.inr ?_)
  rw [h, installedBy_setupSteps]
  exact List.mem_append_right _ (List.mem_map_of_mem (List.mem_append_left _ hname))

theorem serves_of_library {i : Import} {component : String}
    (h : moduleOrigin i.source = .library component)
    (hcomponent : component ∈ form.libraryComponents) : form.Serves i := by
  refine .inr (.inr ?_)
  rw [h, installedBy_setupSteps]
  exact List.mem_append_left _ (List.mem_map_of_mem hcomponent)

theorem serves_packageImports (form : Form) : ∀ i ∈ form.packageImports, form.Serves i := by
  have hreact : moduleOrigin "react" = .framework := by decide
  have hlink : moduleOrigin "next/link" = .framework := by decide
  have hforms : moduleOrigin "react-hook-form" = .package "react-hook-form" := by decide
  have hresolvers : moduleOrigin "@hookform/resolvers/zod" = .package "@hookform/resolvers" := by
    decide
  have hzod : moduleOrigin "zod" = .package "zod" := by decide
  intro i hi
  rcases List.mem_append.mp hi with hi | hi
  · simp only [List.mem_cons, List.not_mem_nil, or_false] at hi
    rcases hi with rfl | rfl | rfl | rfl
    · exact .inr (.inl hreact)
    · exact serves_of_package hforms (by decide)
    · exact serves_of_package hresolvers (by decide)
    · exact serves_of_package hzod (by decide)
  · obtain ⟨-, rfl⟩ := List.mem_ite_nil_right.mp hi |>.imp_right List.mem_singleton.mp
    exact .inr (.inl hlink)

theorem serves_libraryImports (form : Form) : ∀ i ∈ form.libraryImports, form.Serves i := by
  have horigin : ∀ component ∈ ["button", "input", "textarea", "form", "card"],
      moduleOrigin (libraryModule component) = .library component := by decide
  intro i hi
  simp only [libraryImports, List.mem_append, List.mem_ite_nil_right, List.mem_singleton] at hi
  rcases hi with (((rfl | ⟨-, rfl⟩) | ⟨harea, rfl⟩) | rfl) | ⟨hcard, rfl⟩
  · exact serves_of_library (horigin "button" (by decide)) (by simp [libraryComponents])
  · exact serves_of_library (horigin "input" (by decide)) (by simp [libraryComponents])
  · exact serves_of_library (horigin "textarea" (by decide)) (by simp [libraryComponents, harea])
  · exact serves_of_library (horigin "form" (by decide)) (by simp [libraryComponents])
  · exact serves_of_library (horigin "card" (by decide)) (by simp [libraryComponents, hcard])

theorem serves_serverImportList (form : Form) (source : Role) :
    ∀ i ∈ form.serverImportList source, form.Serves i := by
  intro i hi
  rcases List.mem_cons.mp hi with rfl | hi
  · exact form.serves_schemaImport source
  · obtain ⟨-, hi⟩ := List.mem_ite_nil_right.mp hi
    rw [List.mem_singleton.mp hi]
    exact form.serves_databaseImport source

/-- The steps serve all imports of all artifacts that a form has. -/
theorem serves_imports {role : Role} (hrole : role ∈ form.roles) :
    ∀ i ∈ form.imports role, form.Serves i := by
  intro i hi
  cases role with
  | component =>
    rcases List.mem_append.mp hi with hi | hi
    · rcases List.mem_append.mp hi with hi | hi
      · exact form.serves_packageImports i hi
      · exact form.serves_libraryImports i hi
    · rcases List.mem_cons.mp hi with rfl | hi
      · exact form.serves_schemaImport _
      · obtain ⟨-, hi⟩ := List.mem_ite_nil_right.mp hi
        rw [List.mem_singleton.mp hi]
        exact form.serves_actionImport _
  | schema =>
    have hzod : moduleOrigin "zod" = .package "zod" := by decide
    rw [List.mem_singleton.mp hi]
    exact serves_of_package hzod (by decide)
  | serverAction => exact form.serves_serverImportList _ i hi
  | apiRoute =>
    have hserver : moduleOrigin "next/server" = .framework := by decide
    have hnext : moduleOrigin "next" = .framework := by decide
    rcases List.mem_cons.mp hi with rfl | hi
    · refine .inr (.inl ?_)
      split
      · exact hserver
      · exact hnext
    · exact form.serves_serverImportList _ i hi
  | databaseClient =>
    have hstorage : form.storage.isSome = true := by simpa [roles] using hrole
    refine .inr (.inr ?_)
    rw [List.mem_singleton.mp hi, installedBy_setupSteps, hstorage]
    refine List.mem_append_right _ (List.mem_map.mpr ⟨"mongodb", by decide, ?_⟩)
    decide
  | snapshot => exact absurd hi List.not_mem_nil

/-- Some artifact of the form imports a module that comes from there. -/
def Needs (form : Form) (origin : ModuleOrigin) : Prop :=
  ∃ role ∈ form.roles, ∃ i ∈ form.imports role, moduleOrigin i.source = origin

theorem needs_of_mem_component {i : Import} {origin : ModuleOrigin}
    (hi : i ∈ form.packageImports ++ form.libraryImports) (h : moduleOrigin i.source = origin) :
    form.Needs origin :=
  ⟨.component, by simp [roles], i, List.mem_append_left _ hi, h⟩

theorem needs_library {component : String} (h : component ∈ form.libraryComponents)
    (hinput : component ≠ "input") : form.Needs (.library component) := by
  have horigin : ∀ component ∈ ["form", "button", "textarea", "card"],
      moduleOrigin (libraryModule component) = .library component := by decide
  have hlibrary {i : Import} (hi : i ∈ form.libraryImports) :
      i ∈ form.packageImports ++ form.libraryImports := List.mem_append_right _ hi
  simp only [libraryComponents, List.mem_append, List.mem_ite_nil_right, List.mem_cons,
    List.not_mem_nil, or_false] at h
  rcases h with ((rfl | rfl | rfl) | ⟨harea, rfl⟩) | ⟨hcard, rfl⟩
  · refine needs_of_mem_component (hlibrary (i := .named ["Form", "FormControl", "FormField",
      "FormItem", "FormLabel", "FormMessage"] (libraryModule "form")) ?_) (horigin _ (by decide))
    simp [libraryImports]
  · exact absurd rfl hinput
  · refine needs_of_mem_component (hlibrary (i := .named ["Button"] (libraryModule "button")) ?_)
      (horigin _ (by decide))
    simp [libraryImports]
  · refine needs_of_mem_component
      (hlibrary (i := .named ["Textarea"] (libraryModule "textarea")) ?_) (horigin _ (by decide))
    simp [libraryImports, harea]
  · refine needs_of_mem_component (hlibrary (i := .named ["Card", "CardContent",
      "CardDescription", "CardFooter", "CardHeader", "CardTitle"] (libraryModule "card")) ?_)
      (horigin _ (by decide))
    simp [libraryImports, hcard]

theorem needs_mongodb (h : form.storage.isSome = true) : form.Needs (.package "mongodb") := by
  refine ⟨.databaseClient, by simp [roles, h], _, List.mem_singleton_self _, ?_⟩
  decide

theorem needs_package {name : String}
    (h : name ∈ ["react-hook-form", "@hookform/resolvers", "zod"]) :
    form.Needs (.package name) := by
  have hpackage {i : Import} (hi : i ∈ form.packageImports) :
      i ∈ form.packageImports ++ form.libraryImports := List.mem_append_left _ hi
  simp only [List.mem_cons, List.not_mem_nil, or_false] at h
  rcases h with rfl | rfl | rfl
  · refine needs_of_mem_component (hpackage (i := .named ["useForm"] "react-hook-form") ?_)
      (by decide)
    simp [packageImports]
  · refine needs_of_mem_component
      (hpackage (i := .named ["zodResolver"] "@hookform/resolvers/zod") ?_) (by decide)
    simp [packageImports]
  · refine needs_of_mem_component (hpackage (i := .named ["z"] "zod") ?_) (by decide)
    simp [packageImports]

/-- What the steps install is needed, but for the component of inputs. -/
theorem needs_of_mem_installedBy {origin : ModuleOrigin}
    (h : origin ∈ installedBy form.setupSteps) (hinput : origin ≠ .library "input") :
    form.Needs origin := by
  rw [installedBy_setupSteps] at h
  rcases List.mem_append.mp h with h | h
  · obtain ⟨component, hcomponent, rfl⟩ := List.mem_map.mp h
    exact needs_library hcomponent fun heq => hinput (congrArg _ heq)
  · obtain ⟨name, hname, rfl⟩ := List.mem_map.mp h
    rcases List.mem_append.mp hname with hname | hname
    · exact needs_package hname
    · obtain ⟨hstorage, hname⟩ := List.mem_ite_nil_right.mp hname
      rw [List.mem_singleton.mp hname]
      exact needs_mongodb hstorage

/-! ## The variable of the database client -/

theorem variablesRead_databaseConnection :
    databaseConnection.texts.flatMap variablesRead =
      [databaseVariable, databaseVariable, "NODE_ENV"] := by
  decide +kernel

/-- The database client reads the variable of the database and the one that the framework sets,
whatever the names of its storage are. -/
theorem Valid.variablesRead_contents (h : form.Valid) :
    (Text.sourceLines (form.contents .databaseClient)).flatMap variablesRead =
      [databaseVariable, databaseVariable, "NODE_ENV"] := by
  have hlines : (Text.sourceLines (form.contents .databaseClient)).flatMap variablesRead =
      form.databaseClientCode.texts.flatMap variablesRead := by
    rw [form.contents_eq_render (by decide),
      Code.flatMap_sourceLines (h.turns_code .databaseClient).2 (by decide), Code.texts,
      List.flatMap_map]
    simp only [variablesRead_indented]
    rfl
  have hexport {before name : String} (hname : FormScaffold.isStorageName name = true)
      (hbefore : '\x22' ∉ before.toList)
      (hnone : namesBehind "process.env.".toList before.toList = []) :
      variablesRead (before ++ Quoted.literal name ++ ";") = [] := by
    rw [variablesRead_literal hbefore hname (by decide), hnone]
    decide
  rw [hlines, databaseClientCode]
  simp only [Code.texts_seq_cons, Code.texts_seq_nil, Code.texts_gap, List.flatMap_append,
    variablesRead_databaseConnection]
  cases hs : form.storage with
  | none => rfl
  | some storage =>
    have hvalid := h.storage storage hs
    have hdatabase : variablesRead ("export const databaseName = " ++
        Quoted.literal storage.database ++ ";") = [] :=
      hexport (hvalid storage.database (by simp)).2 (by decide) (by decide)
    have hcollection : variablesRead ("export const collectionName = " ++
        Quoted.literal storage.collection ++ ";") = [] :=
      hexport (hvalid storage.collection (by simp)).2 (by decide) (by decide)
    simp only [Code.texts_seq_cons, Code.texts_seq_nil, Code.texts_line, List.flatMap_append,
      List.flatMap_singleton, hdatabase, hcollection]
    rfl

/-! ## All that is installed -/

theorem Valid.importedFrom (h : form.Valid) {origin : ModuleOrigin} (hneeds : form.Needs origin) :
    ImportedFrom form.artifacts origin := by
  obtain ⟨role, hrole, i, hi, horigin⟩ := hneeds
  have hsnapshot : role ≠ .snapshot := by
    rintro rfl
    exact absurd hi List.not_mem_nil
  exact ⟨form.artifact role, List.mem_map_of_mem hrole, i.line,
    h.line_mem_sourceLines hsnapshot hi, startsImport_line i, i,
    Import.read?_line (h.links_imports role i hi).1, horigin⟩

/-- The setup steps install what the artifacts need.  From every unindented import line an import
is read, of a file of the application, of the framework, or of what the steps add to the library or
install.  The database client reads the variable with the address of the database, and every
variable that it reads is set by the framework or named in a step.  Conversely all that the steps
install is imported somewhere, but for the component of inputs, and a step is about the database
only if the package of the database is imported. -/
theorem setupSteps_install {artifacts : List Artifact} (h : form.generate = .ok artifacts) :
    (∀ a ∈ artifacts, ∀ l ∈ Text.sourceLines a.contents, startsImport l = true →
      ∃ i, Import.read? l = some i ∧
        (moduleOrigin i.source = .own ∨ moduleOrigin i.source = .framework ∨
          moduleOrigin i.source ∈ installedBy form.setupSteps)) ∧
    (∀ a ∈ artifacts, a.role = .databaseClient →
      databaseVariable ∈ (Text.sourceLines a.contents).flatMap variablesRead ∧
        ∀ v ∈ (Text.sourceLines a.contents).flatMap variablesRead,
          v = "NODE_ENV" ∨ v ∈ form.setupSteps.flatMap variablesSet) ∧
    (∀ origin ∈ installedBy form.setupSteps, origin ≠ .library "input" →
      ImportedFrom artifacts origin) ∧
    (∀ step ∈ form.setupSteps, concernsDatabase step = true →
      ImportedFrom artifacts (.package "mongodb")) := by
  obtain ⟨hvalid, rfl⟩ := valid_of_generate h
  refine ⟨?_, ?_, ?_, ?_⟩
  · rintro a ha l hl himport
    obtain ⟨role, hrole, rfl⟩ := List.mem_map.mp ha
    obtain ⟨i, hi, rfl⟩ := hvalid.mem_imports hl himport
    exact ⟨i, Import.read?_line (hvalid.links_imports role i hi).1, serves_imports hrole i hi⟩
  · rintro a ha hclient
    obtain ⟨role, hrole, rfl⟩ := List.mem_map.mp ha
    obtain rfl : role = .databaseClient := hclient
    have hstorage : form.storage.isSome = true := by simpa [roles] using hrole
    rw [artifact, hvalid.variablesRead_contents, variablesSet_setupSteps, hstorage]
    exact ⟨by simp, by simp⟩
  · intro origin horigin hinput
    exact hvalid.importedFrom (needs_of_mem_installedBy horigin hinput)
  · intro step hstep hconcerns
    exact hvalid.importedFrom (needs_mongodb (storage_of_concernsDatabase hstep hconcerns))

/-- A form in a card, with a long text and a storage. -/
def storingForm : Form :=
  { named "contact" with
    fields := [.named "message" .textarea]
    buttons := [{ text := "Send", variant := .default }]
    layout := .card
    storage := some { database := "process.env.TMP", collection := "contacts" }
    serverAction := true }

theorem setupSteps_install_storingForm :
    storingForm.generate = .ok storingForm.artifacts ∧
      installedBy storingForm.setupSteps =
        ["form", "input", "button", "textarea", "card"].map ModuleOrigin.library ++
          ["react-hook-form", "@hookform/resolvers", "zod", "mongodb"].map ModuleOrigin.package ∧
      ImportedFrom storingForm.artifacts (.library "textarea") ∧
      ImportedFrom storingForm.artifacts (.library "card") ∧
      ImportedFrom storingForm.artifacts (.package "mongodb") := by
  have h : storingForm.generate = .ok storingForm.artifacts :=
    generate_of_valid (by decide) (by decide)
  have hinstalled : installedBy storingForm.setupSteps =
      ["form", "input", "button", "textarea", "card"].map ModuleOrigin.library ++
        ["react-hook-form", "@hookform/resolvers", "zod", "mongodb"].map ModuleOrigin.package := by
    rw [installedBy_setupSteps]
    decide
  have himported := (setupSteps_install h).2.2.1
  rw [hinstalled] at himported
  exact ⟨h, hinstalled, himported _ (by decide) (by decide), himported _ (by decide) (by decide),
    himported _ (by decide) (by decide)⟩

end Form

end FormScaffold
