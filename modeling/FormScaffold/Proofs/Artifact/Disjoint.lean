import FormScaffold.Proofs.Artifact.Places

/-!
# Artifacts that keep out of each other's way

The path of an artifact ends in a file name, which holds a dot, and no directory above an artifact
has one in its name.  So no artifact stands where another one needs a directory, and two artifacts
have the same path only if they are the same artifact of forms with the same name, or the client of
the database (`Form.paths_of_generate`).
-/

namespace FormScaffold

/-- The segments of a path that name something. -/
def Path.steps (path : Path) : List String := path.segments.filter fun s => !isIdle s

namespace Path

theorem steps_append (front back : List String) :
    steps ⟨front ++ back⟩ = steps ⟨front⟩ ++ steps ⟨back⟩ :=
  List.filter_append _ _

theorem steps_of_names {names : List String} (h : ∀ s ∈ names, IsName s) : steps ⟨names⟩ = names :=
  List.filter_eq_self.mpr fun s hs => by simp [(h s hs).1]

theorem steps_dropIdle (segments : List String) : steps ⟨dropIdle segments⟩ = steps ⟨segments⟩ := by
  obtain ⟨idle, hidle, hsegments⟩ := exists_idle_append segments
  have hnone : steps ⟨idle⟩ = [] := List.filter_eq_nil_iff.mpr fun s hs => by simp [hidle s hs]
  conv_rhs => rw [hsegments, steps_append, hnone, List.append_nil]

theorem steps_base (directory : Path) : steps ⟨directory.base⟩ = directory.steps := by
  obtain ⟨segments⟩ := directory
  rw [base, dropSlash]
  split
  · next hlast =>
    have hsegments : segments = segments.dropLast ++ [""] :=
      (List.dropLast_append_getLast? "" hlast).symm
    conv_rhs => rw [hsegments, steps_append]
    exact (List.append_nil _).symm
  · rfl

end Path

/-! ## Paths of two forms -/

namespace Naming

variable {names others : Naming} {role other : Role}

theorem dot_notMem_directory (h : isIdentifier names.form = true) :
    ∀ s ∈ names.directory role, '.' ∉ s.toList := by
  intro s hs hdot
  have hall := all_continuesIdentifier h (List.mem_append_left [names.stem role] hs)
  exact absurd (List.all_eq_true.mp hall _ hdot) (by decide)

theorem dot_mem_fileName : '.' ∈ (names.fileName role).toList := by
  simp [fileName]

/-- No file of an artifact is a directory of another one. -/
theorem eq_of_isPrefix (h : isIdentifier names.form = true) (h' : isIdentifier others.form = true)
    (hstart : pathSegments (names.path role) <+: pathSegments (others.path other)) :
    names.directory role = others.directory other ∧
      names.fileName role = others.fileName other := by
  rw [pathSegments_path h, pathSegments_path h', List.prefix_concat_iff] at hstart
  rcases hstart with heq | hdirectory
  · obtain ⟨hdirectory, hname⟩ := List.append_inj' heq rfl
    exact ⟨hdirectory, (List.cons.inj hname).1⟩
  · have hmem : names.fileName role ∈ others.directory other :=
      hdirectory.subset (List.mem_append_right _ (List.mem_singleton_self _))
    exact absurd dot_mem_fileName (dot_notMem_directory h' _ hmem)

/-- What is at the same place is the same artifact; the client of the database is shared. -/
theorem same_place (hdirectory : names.directory role = others.directory other)
    (hname : names.fileName role = others.fileName other) :
    role = other ∧ (role = .databaseClient ∨ names.form = others.form) := by
  obtain ⟨hstem, hextension⟩ := fileName_inj hname
  obtain rfl := role_eq_of_directory_of_extension hdirectory hextension
  refine ⟨rfl, ?_⟩
  obtain ⟨form, routing⟩ := names
  obtain ⟨form', routing'⟩ := others
  cases role with
  | databaseClient => exact .inl rfl
  | component => exact .inr hstem
  | schema => exact .inr (by simpa [stem] using hstem)
  | serverAction => exact .inr (by simpa [stem] using hstem)
  | snapshot => exact .inr (by simpa [stem] using hstem)
  | apiRoute =>
    cases routing <;> cases routing' <;> simp_all [directory, stem]

end Naming

/-! ## The artifacts of a form -/

namespace Form

variable {form : Form}

theorem steps_target (h : isIdentifier form.naming.form = true) (directory : Path) (role : Role) :
    ((form.artifact role).target directory).steps =
      directory.steps ++ (form.naming.directory role ++ [form.naming.fileName role]) := by
  have hnames : ∀ s ∈ form.naming.directory role ++ [form.naming.fileName role],
      Path.IsName s := by
    simpa [or_imp, forall_and] using
      ⟨Naming.isName_directory h role, Naming.isName_fileName h role⟩
  rw [target_artifact h, List.append_assoc, Path.steps_append, Path.steps_base,
    Path.steps_of_names hnames]

theorem steps_stagingPath (h : isIdentifier form.naming.form = true) (directory : Path)
    (role : Role) :
    (stagingPath ((form.artifact role).target directory)).steps =
      directory.steps ++ (form.naming.directory role ++ [form.naming.stagingName role]) := by
  have hstaging : ∀ s ∈ [form.naming.stagingName role], Path.IsName s := by
    simpa using Naming.isName_stagingName form.naming role
  rw [stagingPath_target h, Path.steps_append, Path.steps_dropIdle, Path.steps_append,
    Path.steps_base, Path.steps_of_names (Naming.isName_directory h role),
    Path.steps_of_names hstaging, List.append_assoc]

theorem namesSegment_path (h : isIdentifier form.naming.form = true) (role : Role) :
    ∀ s ∈ pathSegments (form.naming.path role), s ≠ "" ∧ s ≠ "." ∧ s ≠ ".." := by
  intro s hs
  rw [Naming.pathSegments_path h] at hs
  have hname : Path.IsName s := by
    rcases List.mem_append.mp hs with hs | hs
    · exact Naming.isName_directory h role s hs
    · rw [List.mem_singleton.mp hs]
      exact Naming.isName_fileName h role
  refine ⟨hname.ne_empty, ?_, hname.2⟩
  rintro rfl
  exact absurd hname.1 (by decide)

theorem nodup_stagingPaths (h : isIdentifier form.naming.form = true) (directory : Path) :
    (form.artifacts.map fun a => (stagingPath (a.target directory)).steps).Nodup := by
  rw [artifacts, List.map_map]
  refine List.Nodup.map_on (fun role _ other _ heq => ?_) form.nodup_roles
  change (stagingPath ((form.artifact role).target directory)).steps =
    (stagingPath ((form.artifact other).target directory)).steps at heq
  rw [steps_stagingPath h, steps_stagingPath h, List.append_cancel_left_eq] at heq
  obtain ⟨hdirectory, hname⟩ := List.append_inj' heq rfl
  have hname : form.naming.fileName role = form.naming.fileName other := by
    simpa [Naming.stagingName, String.append_right_inj, String.append_left_inj] using hname
  exact (Naming.same_place hdirectory hname).1

theorem stagingPath_ne_target (h : isIdentifier form.naming.form = true) (directory : Path)
    (role other : Role) :
    (stagingPath ((form.artifact role).target directory)).steps ≠
      ((form.artifact other).target directory).steps := by
  rw [steps_stagingPath h, steps_target h, ne_eq, List.append_cancel_left_eq]
  intro heq
  have hname := (List.append_inj' heq rfl).2
  exact Naming.fileName_ne_stagingName h other role (List.cons.inj hname).1.symm

/-- The artifacts of a form have places of their own.  Each is written below the output directory
and staged beside its place, none is where another one needs a directory, and the files in which
they are staged are different from each other and from the artifacts.  With a form of another name
only the client of the database is shared. -/
theorem paths_of_generate {artifacts : List Artifact} (h : form.generate = .ok artifacts) :
    artifacts.map (·.role) = [.component, .schema] ++
      (if form.serverAction then [.serverAction] else []) ++
      (if form.apiRoute then [.apiRoute] else []) ++
      (if form.storage.isSome then [.databaseClient] else []) ++ [.snapshot] ∧
    (artifacts.map (·.role)).Nodup ∧
    (∀ a ∈ artifacts, ∀ s ∈ pathSegments a.path, s ≠ "" ∧ s ≠ "." ∧ s ≠ "..") ∧
    (artifacts.Pairwise fun a b => a.path ≠ b.path ∧
      ¬pathSegments a.path <+: pathSegments b.path ∧
      ¬pathSegments b.path <+: pathSegments a.path) ∧
    (∀ directory : Path,
      (∀ a ∈ artifacts, (a.target directory).steps = directory.steps ++ pathSegments a.path ∧
        ∃ name, (stagingPath (a.target directory)).steps =
          directory.steps ++ ((pathSegments a.path).dropLast ++ [name])) ∧
      (artifacts.map fun a => (stagingPath (a.target directory)).steps).Nodup ∧
      ∀ a ∈ artifacts, ∀ b ∈ artifacts,
        (stagingPath (a.target directory)).steps ≠ (b.target directory).steps) ∧
    ∀ (other : Form) (others : List Artifact), other.generate = .ok others →
      other.name ≠ form.name → ∀ a ∈ artifacts, ∀ b ∈ others,
        (pathSegments a.path <+: pathSegments b.path ∨
          pathSegments b.path <+: pathSegments a.path) →
        a.path = "lib/mongodb.ts" ∧ b.path = "lib/mongodb.ts" := by
  obtain ⟨hvalid, rfl⟩ := valid_of_generate h
  have hroles : form.artifacts.map (·.role) = form.roles := by
    rw [Form.artifacts, List.map_map]
    exact List.map_id' form.roles
  refine ⟨hroles, hroles ▸ form.nodup_roles, ?_, ?_, fun directory => ⟨?_, ?_, ?_⟩, ?_⟩
  · simp only [Form.artifacts, List.forall_mem_map]
    exact fun role _ => namesSegment_path hvalid.name role
  · have happart : ∀ {role other : Role}, role ≠ other →
        ¬pathSegments (form.naming.path role) <+: pathSegments (form.naming.path other) := by
      intro role other hne hstart
      obtain ⟨hdirectory, hname⟩ := Naming.eq_of_isPrefix hvalid.name hvalid.name hstart
      exact hne (Naming.same_place hdirectory hname).1
    rw [Form.artifacts, List.pairwise_map]
    refine form.nodup_roles.imp fun {role other} hne => ⟨fun heq => ?_, happart hne, happart hne.symm⟩
    refine happart hne ?_
    change form.naming.path role = form.naming.path other at heq
    exact heq ▸ List.prefix_rfl
  · simp only [Form.artifacts, List.forall_mem_map]
    intro role _
    have hsegments : pathSegments (form.artifact role).path =
        form.naming.directory role ++ [form.naming.fileName role] :=
      Naming.pathSegments_path hvalid.name role
    rw [steps_target hvalid.name, steps_stagingPath hvalid.name, hsegments, List.dropLast_concat]
    exact ⟨rfl, form.naming.stagingName role, rfl⟩
  · exact nodup_stagingPaths hvalid.name directory
  · simp only [Form.artifacts, List.forall_mem_map]
    exact fun role _ other _ => stagingPath_ne_target hvalid.name directory role other
  · intro other others hother hne
    obtain ⟨hvalid', rfl⟩ := valid_of_generate hother
    simp only [Form.artifacts, List.forall_mem_map]
    intro role _ role' _ hstart
    obtain ⟨rfl, hshared⟩ : role = role' ∧
        (role = .databaseClient ∨ form.naming.form = other.naming.form) := by
      rcases hstart with hstart | hstart
      · obtain ⟨hdirectory, hname⟩ := Naming.eq_of_isPrefix hvalid.name hvalid'.name hstart
        exact Naming.same_place hdirectory hname
      · obtain ⟨hdirectory, hname⟩ := Naming.eq_of_isPrefix hvalid'.name hvalid.name hstart
        exact Naming.same_place hdirectory.symm hname.symm
    rcases hshared with rfl | hform
    · exact ⟨rfl, rfl⟩
    · exact absurd hform.symm hne

/-- A form with every artifact. -/
def everyArtifact : Form :=
  { named "contact" with
    buttons := [{ text := "Send", variant := .default }]
    storage := some { database := "crm", collection := "leads" }
    serverAction := true
    apiRoute := true }

/-- A form whose name begins like an artifact of the other one. -/
def namedAlike : Form :=
  { named "contactSchema" with
    buttons := [{ text := "Send", variant := .default }]
    storage := some { database := "crm", collection := "leads" }
    apiRoute := true
    routing := .pages }

theorem paths_everyArtifact_namedAlike :
    everyArtifact.generate = .ok everyArtifact.artifacts ∧
      namedAlike.generate = .ok namedAlike.artifacts ∧
      everyArtifact.artifacts.map (·.role) = Role.all ∧
      ∀ a ∈ everyArtifact.artifacts, ∀ b ∈ namedAlike.artifacts,
        a.path = b.path → a.path = "lib/mongodb.ts" := by
  have h : everyArtifact.generate = .ok everyArtifact.artifacts :=
    generate_of_valid (by decide) (by decide)
  have hother : namedAlike.generate = .ok namedAlike.artifacts :=
    generate_of_valid (by decide) (by decide)
  obtain ⟨hroles, -, -, -, -, hshared⟩ := paths_of_generate h
  refine ⟨h, hother, hroles, fun a ha b hb heq => ?_⟩
  exact (hshared namedAlike _ hother (by decide) a ha b hb (.inl (heq ▸ List.prefix_rfl))).1

end Form

end FormScaffold
