import FormScaffold.Proofs.Artifact.References
import FormScaffold.Proofs.Artifact.Staged
import FormScaffold.Proofs.Naming.Path

/-!
# Places of artifacts

Below the directory where the output directory leads, every artifact has a place of its own, and a
file beside it in which it is staged; the names of staged files begin with a dot, and those of
artifacts do not (`Form.separate_artifacts`).  No target has a longer path than the staged
component, so all targets can be reached once all artifacts are staged
(`Form.exists_locate_target`).
-/

namespace FormScaffold

open FileTree

/-! ## Names of files -/

namespace Naming

variable {names : Naming}

/-- The name of an artifact's file. -/
def fileName (names : Naming) (role : Role) : String := names.stem role ++ "." ++ extension role

/-- The name of the file in which an artifact is staged. -/
def stagingName (names : Naming) (role : Role) : String :=
  "." ++ names.fileName role ++ ".formgen-tmp"

theorem ne_empty_of_mem (h : isIdentifier names.form = true) {role : Role} {s : String}
    (hs : s ∈ names.directory role ++ [names.stem role]) : s ≠ "" := by
  have hform : names.form ≠ "" := ne_empty_of_isIdentifier h
  obtain ⟨form, routing⟩ := names
  cases role <;> cases routing <;>
    simp only [directory, stem, List.nil_append, List.cons_append, List.mem_cons, List.not_mem_nil,
      or_false] at hs
  all_goals
    rcases hs with rfl | rfl | rfl | rfl
  all_goals first
    | exact hform
    | decide
    | simp

theorem zero_notMem_of_all {s : String} (h : s.toList.all continuesIdentifier = true) :
    '\x00' ∉ s.toList := fun hc => absurd (List.all_eq_true.mp h _ hc) (by decide)

theorem isName_directory (h : isIdentifier names.form = true) (role : Role) :
    ∀ s ∈ names.directory role, Path.IsName s := by
  intro s hs
  have hs := List.mem_append_left [names.stem role] hs
  obtain ⟨hdot, hdots⟩ := namesSegment_of_all (all_continuesIdentifier h hs)
  exact ⟨by simp [Path.isIdle, ne_empty_of_mem h hs, hdot], hdots⟩

/-- The name of a file does not begin with a dot. -/
theorem head_fileName (h : isIdentifier names.form = true) (role : Role) :
    ∃ c cs, (names.fileName role).toList = c :: cs ∧ c ≠ '.' := by
  have hstem := List.mem_append_right (names.directory role)
    (List.mem_singleton_self (names.stem role))
  have hall := all_continuesIdentifier h hstem
  cases hcs : (names.stem role).toList with
  | nil => exact absurd (by simpa using hcs) (ne_empty_of_mem h hstem)
  | cons c cs =>
    rw [hcs, List.all_cons, Bool.and_eq_true] at hall
    refine ⟨c, cs ++ ".".toList ++ (extension role).toList, by simp [fileName, hcs], ?_⟩
    rintro rfl
    exact absurd hall.1 (by decide)

theorem isName_fileName (h : isIdentifier names.form = true) (role : Role) :
    Path.IsName (names.fileName role) := by
  obtain ⟨c, cs, hcs, hc⟩ := head_fileName h role
  have hne (cs' : List Char) : names.fileName role ≠ String.ofList ('.' :: cs') := by
    intro heq
    rw [heq, String.toList_ofList] at hcs
    exact hc (List.cons.inj hcs).1.symm
  have hempty : names.fileName role ≠ "" := by
    intro heq
    rw [heq] at hcs
    exact absurd hcs (by simp)
  exact ⟨by simpa [Path.isIdle, hempty] using hne [], hne ['.']⟩

theorem isName_stagingName (names : Naming) (role : Role) :
    Path.IsName (names.stagingName role) := by
  have hlength : 3 ≤ (names.stagingName role).toList.length := by
    simp [stagingName]
  have hne {s : String} (hs : s.toList.length < 3) : names.stagingName role ≠ s := by
    rintro rfl
    omega
  exact ⟨by simp [Path.isIdle, hne (s := "") (by decide), hne (s := ".") (by decide)],
    hne (by decide)⟩

theorem fileName_ne_stagingName (h : isIdentifier names.form = true) (role other : Role) :
    names.fileName role ≠ names.stagingName other := by
  obtain ⟨c, cs, hcs, hc⟩ := head_fileName h role
  intro heq
  rw [heq, stagingName, String.toList_append, String.toList_append] at hcs
  exact hc (List.cons.inj hcs).1.symm

/-- Artifacts in the same directory have different extensions, also those of different forms. -/
theorem role_eq_of_directory_of_extension {others : Naming} {role other : Role}
    (hdirectory : names.directory role = others.directory other)
    (hextension : extension role = extension other) : role = other := by
  obtain ⟨form, routing⟩ := names
  obtain ⟨form', routing'⟩ := others
  cases role <;> cases other <;> simp only [extension] at hextension
  all_goals first
    | rfl
    | exact absurd hextension (by decide)
    | cases routing <;> cases routing' <;> simp [directory, Routing.name] at hdirectory

/-- The last dot of a file name is the one before the extension. -/
theorem cutLast_fileName (names : Naming) (role : Role) :
    Text.cutLast (· = '.') (names.fileName role).toList =
      some ((names.stem role).toList, (extension role).toList) := by
  have hdot : ∀ c ∈ (extension role).toList, decide (c = '.') = false := by
    cases role <;> exact Text.forall_mem_of_all (by decide)
  rw [fileName, String.toList_append, String.toList_append, List.append_assoc]
  exact Text.cutLast_append_cons rfl hdot _

/-- The stem and the extension of a file name can be told apart. -/
theorem fileName_inj {others : Naming} {role other : Role}
    (h : names.fileName role = others.fileName other) :
    names.stem role = others.stem other ∧ extension role = extension other := by
  have heq := (names.cutLast_fileName role).symm.trans (h ▸ others.cutLast_fileName other)
  obtain ⟨hstem, hextension⟩ := Prod.mk.inj (Option.some.inj heq)
  exact ⟨String.toList_injective hstem, String.toList_injective hextension⟩

theorem zero_notMem_fileName (h : isIdentifier names.form = true) (role : Role) :
    '\x00' ∉ (names.fileName role).toList := by
  have hstem : '\x00' ∉ (names.stem role).toList :=
    zero_notMem_of_all (all_continuesIdentifier h
      (List.mem_append_right _ (List.mem_singleton_self _)))
  have hextension : '\x00' ∉ (extension role).toList := by cases role <;> decide
  simp [fileName, hstem, hextension]

/-- No path of an artifact is longer than the path at which the component is staged. -/
theorem weight_le_staging (names : Naming) (role : Role) :
    Path.weight (names.directory role ++ [names.fileName role]) ≤
      Path.weight (names.directory .component ++ [names.stagingName .component]) := by
  obtain ⟨form, routing⟩ := names
  have hsizes : "app".utf8ByteSize = 3 ∧ "api".utf8ByteSize = 3 ∧ "pages".utf8ByteSize = 5 ∧
      "lib".utf8ByteSize = 3 ∧ "route.ts".utf8ByteSize = 8 ∧ "mongodb.ts".utf8ByteSize = 10 ∧
      "Schema".utf8ByteSize = 6 ∧ "Action".utf8ByteSize = 6 ∧ "Config".utf8ByteSize = 6 ∧
      "ts".utf8ByteSize = 2 ∧ "tsx".utf8ByteSize = 3 ∧ "json".utf8ByteSize = 4 ∧
      ".".utf8ByteSize = 1 ∧ ".formgen-tmp".utf8ByteSize = 12 := by decide
  cases role <;> cases routing <;>
    simp [directory, fileName, stagingName, stem, extension, Routing.name, hsizes] <;> omega

end Naming

/-! ## Places of artifacts -/

namespace Form

variable {form : Form}

theorem target_artifact (h : isIdentifier form.naming.form = true) (directory : Path)
    (role : Role) :
    (form.artifact role).target directory =
      ⟨directory.base ++ form.naming.directory role ++ [form.naming.fileName role]⟩ := by
  have hnames : ∀ s ∈ form.naming.directory role ++ [form.naming.fileName role],
      Path.IsName s := by
    simpa [or_imp, forall_and] using
      ⟨Naming.isName_directory h role, Naming.isName_fileName h role⟩
  have hfilter : (form.naming.directory role ++ [form.naming.fileName role]).filter (· ≠ "") =
      form.naming.directory role ++ [form.naming.fileName role] :=
    List.filter_eq_self.mpr fun s hs => by simpa using (hnames s hs).ne_empty
  rw [Artifact.target, artifact, Naming.pathSegments_path h]
  change List.foldl _ _ (List.filter _ (_ ++ [form.naming.fileName role])) = _
  rw [hfilter, Path.foldl_join hnames (by simp), List.append_assoc]

theorem extension?_target (h : isIdentifier form.naming.form = true) (directory : Path)
    (role : Role) :
    ((form.artifact role).target directory).extension? = some (Naming.extension role) := by
  have hstem : (form.naming.stem role).toList ≠ [] := fun hnil =>
    Naming.ne_empty_of_mem h (List.mem_append_right _ (List.mem_singleton_self _))
      (String.toList_injective hnil)
  rw [target_artifact h, Path.extension?, Path.fileName?_concat (Naming.isName_fileName h role),
    Option.bind_eq_bind, Option.bind_some, Naming.cutLast_fileName, Option.bind_eq_bind,
    Option.bind_some]
  dsimp only
  rw [if_neg (by simpa using hstem), String.ofList_toList]

theorem stagingPath_target (h : isIdentifier form.naming.form = true) (directory : Path)
    (role : Role) :
    stagingPath ((form.artifact role).target directory) =
      ⟨Path.dropIdle (directory.base ++ form.naming.directory role) ++
        [form.naming.stagingName role]⟩ := by
  have hname := Naming.isName_fileName h role
  rw [target_artifact h, stagingPath, Path.fileName?_concat hname, Path.sibling_concat hname.1]
  rfl

variable {tree : FileTree} {directory : Path} {role other : Role} {location : List String}

theorem locate_target (h : isIdentifier form.naming.form = true)
    (hlocate : tree.locate ((form.artifact role).target directory) = .ok location) :
    ∃ place, tree.LeadsTo directory.base place ∧
      location = place ++ form.naming.directory role ++ [form.naming.fileName role] := by
  rw [target_artifact h, locate_concat_eq_ok_iff (Naming.isName_fileName h role)] at hlocate
  obtain ⟨-, -, parent, hparent, rfl⟩ := hlocate
  obtain ⟨place, hplace, rfl⟩ := hparent.of_append (Naming.isName_directory h role)
  exact ⟨place, hplace, rfl⟩

theorem locate_stagingPath (h : isIdentifier form.naming.form = true)
    (hlocate : tree.locate (stagingPath ((form.artifact role).target directory)) = .ok location) :
    ∃ place, tree.LeadsTo directory.base place ∧
      location = place ++ form.naming.directory role ++ [form.naming.stagingName role] := by
  rw [stagingPath_target h, locate_concat_eq_ok_iff (Naming.isName_stagingName _ role)] at hlocate
  obtain ⟨-, -, parent, hparent, rfl⟩ := hlocate
  obtain ⟨place, hplace, rfl⟩ := hparent.of_dropIdle.of_append (Naming.isName_directory h role)
  exact ⟨place, hplace, rfl⟩

theorem apart_targets (h : isIdentifier form.naming.form = true) (hne : role ≠ other) :
    tree.Apart ((form.artifact role).target directory)
      ((form.artifact other).target directory) := by
  intro location hrole hother
  obtain ⟨place, hplace, hlocation⟩ := locate_target h hrole
  obtain ⟨place', hplace', rfl⟩ := locate_target h hother
  obtain rfl := hplace.unique hplace'
  rw [List.append_assoc, List.append_assoc, List.append_cancel_left_eq] at hlocation
  obtain ⟨hdirectory, hname⟩ := List.append_inj' hlocation rfl
  exact hne (Naming.role_eq_of_directory_of_extension hdirectory.symm
    (Naming.fileName_inj (List.cons.inj hname).1.symm).2)

theorem apart_stagings (h : isIdentifier form.naming.form = true) (hne : role ≠ other) :
    tree.Apart (stagingPath ((form.artifact role).target directory))
      (stagingPath ((form.artifact other).target directory)) := by
  intro location hrole hother
  obtain ⟨place, hplace, hlocation⟩ := locate_stagingPath h hrole
  obtain ⟨place', hplace', rfl⟩ := locate_stagingPath h hother
  obtain rfl := hplace.unique hplace'
  rw [List.append_assoc, List.append_assoc, List.append_cancel_left_eq] at hlocation
  obtain ⟨hdirectory, hname⟩ := List.append_inj' hlocation rfl
  have hname : form.naming.fileName other = form.naming.fileName role := by
    simpa [Naming.stagingName, String.append_right_inj, String.append_left_inj] using hname
  exact hne (Naming.role_eq_of_directory_of_extension hdirectory.symm
    (Naming.fileName_inj hname.symm).2)

theorem apart_target_stagingPath (h : isIdentifier form.naming.form = true) :
    tree.Apart ((form.artifact role).target directory)
      (stagingPath ((form.artifact other).target directory)) := by
  intro location hrole hother
  obtain ⟨place, -, hlocation⟩ := locate_target h hrole
  obtain ⟨place', -, rfl⟩ := locate_stagingPath h hother
  have hname := (List.append_inj' hlocation rfl).2
  exact Naming.fileName_ne_stagingName h role other (List.cons.inj hname).1.symm

/-- The artifacts of a form are written to different places, and staged in others. -/
theorem separate_artifacts (h : isIdentifier form.naming.form = true) (directory : Path)
    (tree : FileTree) :
    Separate tree (form.artifacts.map fun a => a.planned directory) := by
  refine ⟨?_, ?_, ?_⟩
  · simp only [artifacts, List.pairwise_map]
    exact form.nodup_roles.imp fun hne => apart_targets h hne
  · simp only [artifacts, List.pairwise_map]
    exact form.nodup_roles.imp fun hne => apart_stagings h hne
  · simp only [artifacts, List.forall_mem_map]
    exact fun role _ other _ => apart_target_stagingPath h

/-- Once the component is staged, no target is too long, since the component's staging path is
longer. -/
theorem fits_target (h : isIdentifier form.naming.form = true)
    (hlocate : tree.locate (stagingPath ((form.artifact .component).target directory)) =
      .ok location) (role : Role) :
    ((form.artifact role).target directory).Fits := by
  have hrouting := Naming.isName_directory h .component _ (List.mem_singleton_self _)
  rw [stagingPath_target h, Naming.directory, Path.dropIdle_concat hrouting.1] at hlocate
  obtain ⟨-, ⟨hzero, hweight⟩, -⟩ := locate_eq_ok_iff.mp hlocate
  have hle := form.naming.weight_le_staging role
  rw [target_artifact h]
  refine ⟨?_, ?_⟩
  · have hbase : ∀ s ∈ directory.base, '\x00' ∉ s.toList := fun s hs =>
      hzero s (List.mem_append_left _ (List.mem_append_left _ hs))
    have hdirs : ∀ s ∈ form.naming.directory role, '\x00' ∉ s.toList := fun s hs =>
      Naming.zero_notMem_of_all (Naming.all_continuesIdentifier h (List.mem_append_left _ hs))
    simpa [or_imp, forall_and] using ⟨hbase, hdirs, Naming.zero_notMem_fileName h role⟩
  · simp only [Path.weight_append, Naming.directory] at hle hweight ⊢
    omega

/-- When all artifacts are staged, all their targets can be reached. -/
theorem exists_locate_target (h : isIdentifier form.naming.form = true) (hrole : role ∈ form.roles)
    (hstaged : ∀ role ∈ form.roles, ∃ location,
      tree.locate (stagingPath ((form.artifact role).target directory)) = .ok location) :
    ∃ location, tree.locate ((form.artifact role).target directory) = .ok location := by
  obtain ⟨place, hcomponent⟩ := hstaged .component (by simp [roles])
  obtain ⟨location, hlocate⟩ := hstaged role hrole
  have hfits := fits_target h hcomponent role
  rw [stagingPath_target h, locate_concat_eq_ok_iff (Naming.isName_stagingName _ role)] at hlocate
  obtain ⟨-, hlimit, parent, hparent, -⟩ := hlocate
  rw [target_artifact h] at hfits ⊢
  refine ⟨parent ++ [form.naming.fileName role], ?_⟩
  rw [locate_concat_eq_ok_iff (Naming.isName_fileName h role)]
  refine ⟨hfits, le_trans ?_ hlimit, parent, hparent.of_dropIdle, rfl⟩
  simp only [Naming.stagingName, String.utf8ByteSize_append]
  omega

theorem exists_locate_planned (h : isIdentifier form.naming.form = true) (directory : Path)
    (tree : FileTree)
    (hstaged : ∀ file ∈ form.artifacts.map fun a => a.planned directory,
      ∃ location, tree.locate (stagingPath file.path) = .ok location) :
    ∀ file ∈ form.artifacts.map fun a => a.planned directory,
      ∃ location, tree.locate file.path = .ok location := by
  simp only [artifacts, List.forall_mem_map] at hstaged ⊢
  exact fun role hrole => exists_locate_target h hrole hstaged

end Form

end FormScaffold
