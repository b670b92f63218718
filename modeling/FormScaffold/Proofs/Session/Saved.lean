import FormScaffold.CommandLine
import FormScaffold.Proofs.Files.Acts
import FormScaffold.Proofs.Snapshot.Loaded

/-!
# Sessions with a saved form

What a session with a saved form does to files is a program on files alone: the form is loaded, its
artifacts are generated, and they are written.  Creating a form from a saved one without questions
checks it first and looks at the output directory, and does the same to the files as generating it
again (`CommandLine.create_like_generate`).
-/

namespace FormScaffold

open FileTree

section

variable {m : Type → Type} [Monad m]

/-- Generates the artifacts of a form and writes them, without a word. -/
def writeForm [FileAccess m] (form : Form) (settings : Settings) : m (Except Failure Unit) := do
  match form.generate with
  | .error error => return .error (.generate form.name error)
  | .ok artifacts =>
    match ← writeArtifacts artifacts settings with
    | .error error => return .error (.write error)
    | .ok _ => return .ok ()

/-- Generates a saved form again, without a word. -/
def refresh [FileAccess m] (path : Path) (settings : Settings) : m (Except Failure Unit) := do
  match ← Snapshot.load path with
  | .error error => return .error (.load error)
  | .ok loaded => writeForm loaded.form settings

/-! ## What a session shows -/

variable [LawfulMonad m]

namespace ActsAs

variable {σ α β : Type}

/-- What does nothing to files may come first. -/
theorem afterUnit {x : StateT σ m Unit} {y : m β} {f : Unit → StateT σ m β}
    (h : ActsAs x (Pure.pure ())) (hf : ActsAs (f ()) y) : ActsAs (x >>= f) y := by
  have hboth : ActsAs (x >>= f) (Pure.pure () >>= fun _ => y) := h.bind fun _ => hf
  rwa [pure_bind] at hboth

theorem forM {action : α → StateT σ m Unit} (h : ∀ a, ActsAs (action a) (Pure.pure ()))
    (items : List α) : ActsAs (items.forM action) (Pure.pure ()) := by
  induction items with
  | nil => exact .pure ()
  | cons item items ih => exact .afterUnit (h item) ih

/-- What only looks at a tree can be left out. -/
theorem look {σ α β : Type} {x : StateT σ (StateM FileTree) α} {y : StateM FileTree α}
    {f : α → StateT σ (StateM FileTree) β} {z : StateM FileTree β} (h : ActsAs x y)
    (hlook : ∀ tree, (y.run tree).2 = tree) (hf : ∀ a, ActsAs (f a) z) : ActsAs (x >>= f) z := by
  have hboth : ActsAs (x >>= f) (y >>= fun _ => z) := h.bind hf
  have hleft : (y >>= fun _ => z) = z := by
    funext tree
    show (z.run (y.run tree).2) = z.run tree
    rw [hlook]
  rwa [hleft] at hboth

/-- On a tree of files, both programs have the same result and leave the same tree. -/
theorem run_eq {σ α : Type} {x : StateT σ (StateM FileTree) α} {y : StateM FileTree α}
    (h : ActsAs x y) (state : σ) (tree : FileTree) :
    ((x.run state).run tree).1.1 = (y.run tree).1 ∧ ((x.run state).run tree).2 = (y.run tree).2 := by
  have hrun := congrArg (fun z : StateM FileTree α => z.run tree) (h state)
  exact ⟨congrArg Prod.fst hrun, congrArg Prod.snd hrun⟩

/-- What does nothing to a tree comes to its value. -/
theorem afterValue {σ α β : Type} {x : StateT σ (StateM FileTree) α} {a : α}
    {f : α → StateT σ (StateM FileTree) β} {y : StateM FileTree β} (h : ActsAs x (Pure.pure a))
    (hf : ActsAs (f a) y) : ActsAs (x >>= f) y := by
  intro state
  funext tree
  obtain ⟨hvalue, htree⟩ := h.run_eq state tree
  have hrest := congrFun (hf ((x.run state).run tree).1.2) tree
  show Prod.map Prod.fst id (((f ((x.run state).run tree).1.1).run ((x.run state).run tree).1.2).run
    ((x.run state).run tree).2) = y tree
  rw [hvalue, htree]
  exact hrest

end ActsAs

theorem actsAs_printLine (line : String) :
    ActsAs (Terminal.printLine line : StateT Screen m Unit) (pure ()) := .modify _

theorem actsAs_warnLine (line : String) :
    ActsAs (Terminal.warnLine line : StateT Screen m Unit) (pure ()) := .modify _

theorem actsAs_tell (message : Message) :
    ActsAs (Terminal.tell message : StateT Screen m Unit) (pure ()) := .modify _

theorem actsAs_printLines (lines : List String) :
    ActsAs (printLines lines : StateT Screen m Unit) (pure ()) := .forM actsAs_printLine lines

namespace Session

theorem actsAs_tellFiles (files : List PlannedFile) (settings : Settings) :
    ActsAs (tellFiles files settings : StateT Screen m Unit) (pure ()) := by
  rw [tellFiles]
  cases settings.dryRun with
  | true => exact .afterUnit (actsAs_tell _) (.forM (fun file => actsAs_tell _) files)
  | false => exact actsAs_tell _

theorem actsAs_tellNextSteps (form : Form) :
    ActsAs (tellNextSteps form : StateT Screen m Unit) (pure ()) :=
  .afterUnit (actsAs_printLines _) (actsAs_tell _)

/-! ## What a session does to files -/

variable [FileAccess m]

theorem actsAs_generateFiles (form : Form) (settings : Settings) :
    ActsAs (generateFiles form settings : StateT Screen m _) (writeForm form settings) := by
  refine .afterUnit (actsAs_tell _) ?_
  rw [writeForm]
  cases form.generate with
  | error error => exact .afterUnit (actsAs_tell _) (.pure _)
  | ok artifacts =>
    refine .bind (actsAs_writeArtifacts artifacts settings) fun written => ?_
    cases written with
    | error error => exact .pure _
    | ok files => exact .afterUnit (actsAs_tellFiles files settings) (.pure _)

/-- The form in a file, without a word. -/
def savedForm (path : Path) : m (Except Failure Form) := do
  match ← Snapshot.load path with
  | .error error => return .error (.load error)
  | .ok loaded => return .ok loaded.form

theorem actsAs_loadForm (path : Path) :
    ActsAs (loadForm path : StateT Screen m _) (savedForm path) := by
  refine .bind (Snapshot.actsAs_load path) fun loaded => ?_
  cases loaded with
  | error error => exact .pure _
  | ok loaded =>
    dsimp only
    cases loaded.warning? with
    | some warning => exact .afterUnit (actsAs_tell _) (.afterUnit (actsAs_tell _) (.pure _))
    | none => exact .afterUnit (actsAs_tell _) (.pure _)

/-- A form that is saved at a path which is given is loaded from there. -/
theorem actsAs_chooseForm {options : CreateOptions} {path : Path} (h : options.config = some path) :
    ActsAs (chooseForm options : StateT Screen m _) (savedForm path) := by
  rw [chooseForm, chooseSaved, h]
  simp only [bind_assoc, pure_bind]
  exact .afterUnit (actsAs_tell _) (actsAs_loadForm path)

/-- Nothing needs to be confirmed when all is. -/
theorem actsAs_confirmOutput (settings : Settings) :
    ActsAs (confirmOutput settings true : StateT Screen (StateM FileTree) _) (pure (.ok ())) := by
  rw [confirmOutput]
  cases settings.dryRun with
  | true => exact .pure _
  | false =>
    refine .look (actsAs_isDirectory _) (fun tree => by rw [run_isDirectory]) fun there => ?_
    cases there with
    | false => exact .pure _
    | true =>
      refine .look (.lift (FileAccess.list _)) (fun tree => rfl) fun items => ?_
      rcases items with fault | (_ | ⟨item, items⟩)
      · exact .pure _
      · exact .pure _
      · exact .afterUnit (actsAs_tell _) (.pure _)

end Session

theorem actsAs_regenerate [FileAccess m] (path : Path) (settings : Settings) :
    ActsAs (regenerate path settings : StateT Screen m _) (refresh path settings) := by
  refine .afterUnit (actsAs_printLine _) (.bind (Snapshot.actsAs_load path) fun loaded => ?_)
  cases loaded with
  | error error => exact .pure _
  | ok loaded =>
    dsimp only
    rw [writeForm]
    cases loaded.warning?
    case' some warning => refine .afterUnit (actsAs_warnLine _) ?_
    all_goals
      cases loaded.form.generate with
      | error error => exact .pure _
      | ok artifacts =>
        refine .bind (actsAs_writeArtifacts artifacts settings) fun written => ?_
        cases written with
        | error error => exact .pure _
        | ok files => exact .afterUnit (actsAs_printLines _) (.pure _)

end

/-! ## Both ways to generate a saved form -/

namespace Session

/-- Creates a form that is saved, without a word and without a look at the output directory. -/
def createSaved (path : Path) (output : Option Path) (environment : Option String)
    (dryRun : Bool) : StateM FileTree (Except Failure Unit) := do
  match ← savedForm path with
  | .error failure => return .error failure
  | .ok form =>
    if form.violation?.isSome then return .error .invalidForm
    let current ← FileAccess.currentDirectory
    writeForm form (Settings.resolve output environment current dryRun)

theorem actsAs_create (path : Path) (output : Option Path) (environment : Option String)
    (dryRun : Bool) :
    ActsAs (create { config := some path, output, dryRun, yes := true } environment :
      StateT Screen (StateM FileTree) _) (createSaved path output environment dryRun) := by
  refine .afterUnit (actsAs_tell _) (.bind (actsAs_chooseForm rfl) fun chosen => ?_)
  cases chosen with
  | error failure => exact .pure _
  | ok form =>
    dsimp only
    rw [checkForm]
    cases form.violation? with
    | some violation =>
      simp only [bind_assoc, pure_bind]
      exact .afterUnit (actsAs_tell _) (.pure _)
    | none =>
      simp only [pure_bind]
      refine .bind (.lift FileAccess.currentDirectory) fun current => ?_
      refine .afterValue (actsAs_confirmOutput _) ?_
      dsimp only
      -- What is shown after a success leaves the result of writing as it is.
      rw [← bind_pure (writeForm form _)]
      refine .bind (actsAs_generateFiles form _) fun written => ?_
      cases written with
      | error failure => exact .pure _
      | ok _ => exact .afterUnit (actsAs_tellNextSteps form) (.pure _)

end Session

/-! ## On a tree of files -/

section

variable {form : Form} {tree : FileTree}

theorem run_refresh_of_error {path : Path} {error : LoadError}
    (h : (Snapshot.load path : StateM FileTree _).run tree = (.error error, tree))
    (settings : Settings) :
    (refresh path settings : StateM FileTree _).run tree = (.error (.load error), tree) := by
  rw [refresh, run_bind, h]
  rfl

theorem run_refresh_of_load {path : Path} {loaded : LoadedForm}
    (h : (Snapshot.load path : StateM FileTree _).run tree = (.ok loaded, tree))
    (settings : Settings) :
    (refresh path settings : StateM FileTree _).run tree =
      (writeForm loaded.form settings : StateM FileTree _).run tree := by
  rw [refresh, run_bind, h]

/-- A form is written when its artifacts are. -/
theorem run_writeForm {artifacts : List Artifact} (h : form.generate = .ok artifacts)
    (settings : Settings) (tree : FileTree) :
    (writeForm form settings : StateM FileTree _).run tree =
      match (writeArtifacts artifacts settings : StateM FileTree _).run tree with
      | (.ok _, after) => (.ok (), after)
      | (.error error, after) => (.error (.write error), after) := by
  rw [writeForm, h]
  dsimp only
  rw [run_bind]
  cases (writeArtifacts artifacts settings : StateM FileTree _).run tree with
  | mk result after => cases result <;> rfl

theorem exists_run_writeForm {artifacts : List Artifact} (h : form.generate = .ok artifacts)
    {settings : Settings}
    (hwrites : ((writeArtifacts artifacts settings : StateM FileTree _).run tree).1.isOk = true) :
    ∃ after, (writeForm form settings : StateM FileTree _).run tree = (.ok (), after) := by
  rw [run_writeForm h]
  cases hrun : (writeArtifacts artifacts settings : StateM FileTree _).run tree with
  | mk result after =>
  rw [hrun] at hwrites
  cases result with
  | ok written => exact ⟨after, rfl⟩
  | error error => exact absurd hwrites Bool.false_ne_true

/-- Once a form has been written, its artifacts are in place. -/
theorem inPlace_of_writeForm {artifacts : List Artifact} (h : form.generate = .ok artifacts)
    {directory : Path} {after : FileTree}
    (hrun : (writeForm form ⟨directory, false⟩ : StateM FileTree _).run tree = (.ok (), after)) :
    InPlace (artifacts.map fun a => a.planned directory) after := by
  rw [run_writeForm h] at hrun
  cases hwrite : (writeArtifacts artifacts ⟨directory, false⟩ : StateM FileTree _).run tree with
  | mk result left =>
  rw [hwrite] at hrun
  cases result with
  | error error => exact absurd (Prod.mk.inj hrun).1 (by simp)
  | ok written =>
    obtain ⟨-, rfl⟩ := Prod.mk.inj hrun
    exact Form.inPlace_of_writeArtifacts h hwrite

end

/-- What the command to generate a form again does to files. -/
theorem CommandLine.run_generate (path : Path) (output : Option Path) (dryRun : Bool)
    (environment : Option String) (screen : Screen) (tree : FileTree) :
    let generated := ((Command.run environment (.generate path output dryRun) :
        StateT Screen (StateM FileTree) _).run screen).run tree
    let refreshed := (refresh path (Settings.resolve output environment
      (.ofDirectory ("" :: tree.current)) dryRun) : StateM FileTree _).run tree
    generated.1.1 = refreshed.1 ∧ generated.2 = refreshed.2 := by
  have hacts : ActsAs (Command.run environment (.generate path output dryRun) :
      StateT Screen (StateM FileTree) _) (do
        let current ← FileAccess.currentDirectory
        refresh path (Settings.resolve output environment current dryRun)) :=
    .bind (.lift FileAccess.currentDirectory) fun _ => actsAs_regenerate path _
  exact hacts.run_eq screen tree

open Session (createSaved savedForm actsAs_create)

/-- A form that is not valid is refused in both ways. -/
theorem createSaved_like_refresh (path : Path) (output : Option Path)
    (environment : Option String) (dryRun : Bool) (tree : FileTree) :
    let created := (createSaved path output environment dryRun).run tree
    let generated := (refresh path (Settings.resolve output environment
      (.ofDirectory ("" :: tree.current)) dryRun) : StateM FileTree _).run tree
    created.1.isOk = generated.1.isOk ∧ created.2 = generated.2 := by
  obtain ⟨loaded, hload⟩ := run_load path tree
  dsimp only
  rw [createSaved, savedForm, refresh, run_bind, run_bind, run_bind, hload]
  cases loaded with
  | error error => exact ⟨rfl, rfl⟩
  | ok loaded =>
    dsimp only
    rw [run_pure]
    dsimp only
    cases hviolation : loaded.form.violation? with
    | some violation =>
      rw [writeForm, Form.generate_of_violation hviolation]
      exact ⟨rfl, rfl⟩
    | none => exact ⟨rfl, rfl⟩

/-- A form is created from a saved one without questions, or generated again from it, with the same
output directory named in the same way: both end well or both fail, and they leave the same tree. -/
theorem CommandLine.create_like_generate (path : Path) (output : Option Path) (dryRun : Bool)
    (environment : Option String) (screen other : Screen) (tree : FileTree) :
    let created := ((Command.run environment
      (.create { config := some path, output, dryRun, yes := true }) :
        StateT Screen (StateM FileTree) _).run screen).run tree
    let generated := ((Command.run environment (.generate path output dryRun) :
        StateT Screen (StateM FileTree) _).run other).run tree
    created.1.1.isOk = generated.1.1.isOk ∧ created.2 = generated.2 := by
  obtain ⟨hresult, htree⟩ := (actsAs_create path output environment dryRun).run_eq screen tree
  obtain ⟨hresult', htree'⟩ := run_generate path output dryRun environment other tree
  obtain ⟨hok, hsame⟩ := createSaved_like_refresh path output environment dryRun tree
  constructor
  · exact (congrArg Except.isOk hresult).trans (hok.trans (congrArg Except.isOk hresult'.symm))
  · exact htree.trans (hsame.trans htree'.symm)

/-- Both ways end well on a saved form, and all its files are then in the output directory. -/
theorem CommandLine.create_like_generate_contact :
    ∃ screen other after,
      ((Command.run none (.create {
          config := some ⟨["contactConfig.json"]⟩, output := none, dryRun := false, yes := true }) :
        StateT Screen (StateM FileTree) _).run (.withKeys none)).run savedContact =
          ((.ok (), screen), after) ∧
      ((Command.run none (.generate ⟨["contactConfig.json"]⟩ none false) :
        StateT Screen (StateM FileTree) _).run (.withKeys none)).run savedContact =
          ((.ok (), other), after) ∧
      ∀ a ∈ Form.contact.artifacts,
        after.read (a.target ⟨["", "generated-form"]⟩) = .ok a.contents.toUTF8 := by
  have hartifacts : Form.contact.generate = .ok Form.contact.artifacts :=
    Form.generate_of_valid (by decide) (by decide)
  obtain ⟨after, hwrite⟩ := exists_run_writeForm hartifacts
    (by decide +kernel : ((writeArtifacts Form.contact.artifacts
      ⟨⟨["", "generated-form"]⟩, false⟩ : StateM FileTree _).run savedContact).1.isOk = true)
  have hsettings : Settings.resolve none none (.ofDirectory ("" :: savedContact.current)) false =
      ⟨⟨["", "generated-form"]⟩, false⟩ := by decide +kernel
  have hrefresh := (run_refresh_of_load run_load_contact _).trans hwrite
  have hplace := inPlace_of_writeForm hartifacts hwrite
  obtain ⟨hresult, htree⟩ := run_generate ⟨["contactConfig.json"]⟩ none false none
    (.withKeys none) savedContact
  rw [hsettings, hrefresh] at hresult htree
  -- Only generating again is followed step by step; creating comes to the same.
  obtain ⟨hok, hsame⟩ := create_like_generate ⟨["contactConfig.json"]⟩ none false none
    (.withKeys none) (.withKeys none) savedContact
  rcases hcreate : ((Command.run none (.create {
      config := some ⟨["contactConfig.json"]⟩, output := none, dryRun := false, yes := true }) :
    StateT Screen (StateM FileTree) _).run (.withKeys none)).run savedContact with
    ⟨⟨created, screen⟩, left⟩
  rcases hgenerate : ((Command.run none (.generate ⟨["contactConfig.json"]⟩ none false) :
    StateT Screen (StateM FileTree) _).run (.withKeys none)).run savedContact with
    ⟨⟨generated, other⟩, left'⟩
  rw [hgenerate] at hresult htree
  rw [hcreate, hgenerate] at hok hsame
  obtain rfl : generated = .ok () := hresult
  obtain rfl : left' = after := htree
  obtain rfl : left = left' := hsame
  cases created with
  | error failure => exact absurd hok Bool.false_ne_true
  | ok _ => exact ⟨screen, other, left, rfl, rfl, fun a ha => hplace.read_target ha⟩

end FormScaffold
