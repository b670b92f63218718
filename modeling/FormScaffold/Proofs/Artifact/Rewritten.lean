import FormScaffold.Proofs.Artifact.Written

/-!
# Artifacts that are written again

Artifacts that have been written are in place (`Form.inPlace_of_writeArtifacts`).  Files in place are
written again without a change: their directories are there, each is staged where nothing is, and it
is moved to where the same file stands (`InPlace.exists_writeFiles`).
-/

namespace FormScaffold

open FileTree

variable {tree : FileTree}

/-- Two trees that hold the same at every location. -/
structure FileTree.Alike (before after : FileTree) : Prop where
  current : after.current = before.current
  get? : ∀ location, after.get? location = before.get? location

/-- Files that stand where their paths lead, with nothing where they are staged. -/
structure InPlace (files : List PlannedFile) (tree : FileTree) : Prop where
  standing : ∀ file ∈ files, ∃ location, tree.locate file.path = .ok location ∧
    tree.get? location = some (.file file.contents.toUTF8)
  unstaged : ∀ file ∈ files, ∃ location, tree.locate (stagingPath file.path) = .ok location ∧
    tree.get? location = none

variable {files : List PlannedFile}

/-! ## Each phase -/

/-- Files that have been moved from where they were staged are in place. -/
theorem Moved.inPlace {middle staged after : FileTree} (h : Moved files staged after)
    (hstaged : Staged files middle staged)
    (htargets : ∀ file ∈ files, ∃ location, middle.locate file.path = .ok location) :
    InPlace files after := by
  constructor
  · intro file hfile
    obtain ⟨location, hlocate⟩ := htargets file hfile
    have hlocate := hstaged.same.locate_iff.mpr hlocate
    exact ⟨location, h.same.locate_iff.mpr hlocate, h.arrived file hfile location hlocate⟩
  · intro file hfile
    obtain ⟨location, hlocate, -⟩ := hstaged.held file hfile
    have hlocate := hstaged.same.locate_iff.mpr hlocate
    exact ⟨location, h.same.locate_iff.mpr hlocate, h.left file hfile location hlocate⟩

/-- Where files can be reached, no directory needs to be made for them. -/
theorem run_makeParents_of_locate
    (h : ∀ file ∈ files, ∃ location, tree.locate file.path = .ok location) :
    (makeParents files : StateM FileTree _).run tree = (.ok (), tree) := by
  induction files with
  | nil => rfl
  | cons file files ih =>
    obtain ⟨⟨location, hlocate⟩, hrest⟩ := List.forall_mem_cons.mp h
    rw [makeParents]
    split
    · exact ih hrest
    · next parent hparent =>
      rw [run_bind, run_makeDirectories_of_locate hparent hlocate]
      exact ih hrest

namespace InPlace

theorem read (h : InPlace files tree) {file : PlannedFile} (hfile : file ∈ files) :
    tree.read file.path = .ok file.contents.toUTF8 :=
  read_eq_ok_iff.mpr (h.standing file hfile)

theorem read_target {artifacts : List Artifact} {directory : Path}
    (h : InPlace (artifacts.map fun a => a.planned directory) tree) {a : Artifact}
    (ha : a ∈ artifacts) : tree.read (a.target directory) = .ok a.contents.toUTF8 := by
  have hfile : a.planned directory ∈ artifacts.map fun a => a.planned directory :=
    List.mem_map_of_mem ha
  have hread := h.read hfile
  dsimp only [Artifact.planned] at hread
  exact hread

theorem stageable (h : InPlace files tree) : ∀ file ∈ files, Stageable tree file := by
  intro file hfile
  constructor
  · obtain ⟨location, hlocate, hstands⟩ := h.standing file hfile
    rw [Ne, kind_eq_directory_iff]
    rintro ⟨place, hplace, hdirectory⟩
    obtain rfl := Except.ok.inj (hlocate.symm.trans hplace)
    exact absurd (hstands.symm.trans hdirectory) (by simp)
  · obtain ⟨location, hlocate, hnone⟩ := h.unstaged file hfile
    exact ⟨location, hlocate, by simp [hnone]⟩

/-- Staging changes nothing but the staging paths, where nothing is left once the files are moved
to where the same files stand. -/
theorem alike (h : InPlace files tree) {staged after : FileTree}
    (hstaged : Staged files tree staged) (hmoved : Moved files staged after) : Alike tree after := by
  have hsame : SameDirectories tree after := hstaged.same.trans hmoved.same
  refine ⟨hsame.forth.current, fun location => ?_⟩
  by_cases hstaging : ∃ file ∈ files, tree.locate (stagingPath file.path) = .ok location
  · obtain ⟨file, hfile, hlocate⟩ := hstaging
    obtain ⟨place, hplace, hnone⟩ := h.unstaged file hfile
    obtain rfl := Except.ok.inj (hplace.symm.trans hlocate)
    rw [hmoved.left file hfile place (hstaged.same.locate_iff.mpr hlocate), hnone]
  · by_cases htarget : ∃ file ∈ files, tree.locate file.path = .ok location
    · obtain ⟨file, hfile, hlocate⟩ := htarget
      obtain ⟨place, hplace, hstands⟩ := h.standing file hfile
      obtain rfl := Except.ok.inj (hplace.symm.trans hlocate)
      rw [hmoved.arrived file hfile place (hstaged.same.locate_iff.mpr hlocate), hstands]
    · have hkept {path : PlannedFile → Path}
          (hnot : ¬ ∃ file ∈ files, tree.locate (path file) = .ok location) :
          ∀ file ∈ files, staged.locate (path file) ≠ .ok location :=
        fun file hfile hlocate => hnot ⟨file, hfile, hstaged.same.locate_iff.mp hlocate⟩
      rw [hmoved.kept location (hkept htarget) (hkept hstaging)]
      exact hstaged.kept location fun file hfile hlocate => hstaging ⟨file, hfile, hlocate⟩

/-- Files that are in place are written without a change. -/
theorem exists_writeFiles (h : InPlace files tree) (hseparate : ∀ tree, Separate tree files) :
    ∃ after, (writeFiles files : StateM FileTree _).run tree = (.ok (), after) ∧
      Alike tree after := by
  have hreach : ∀ file ∈ files, ∃ location, tree.locate file.path = .ok location :=
    fun file hfile => (h.standing file hfile).imp fun _ hlocate => hlocate.1
  obtain ⟨staged, hstage⟩ := exists_stageAll h.stageable []
  have hstaged := staged_of_stageAll (hseparate tree).stagings hstage
  obtain ⟨after, hmove, hmoved⟩ := exists_moved (hseparate staged) (hstaged.ready hreach) []
  refine ⟨after, ?_, h.alike hstaged hmoved⟩
  rw [writeFiles, run_bind, run_makeParents_of_locate hreach]
  dsimp only
  rw [run_bind, hstage]
  exact hmove

end InPlace

/-! ## Artifacts -/

namespace Form

variable {form : Form}

/-- Artifacts that have been written are in place. -/
theorem inPlace_of_writeArtifacts {artifacts : List Artifact} (h : form.generate = .ok artifacts)
    {directory : Path} {after : FileTree} {written : List PlannedFile}
    (hrun : (writeArtifacts artifacts ⟨directory, false⟩ : StateM FileTree _).run tree =
      (.ok written, after)) :
    InPlace (artifacts.map fun a => a.planned directory) after := by
  obtain ⟨hvalid, rfl⟩ := valid_of_generate h
  have hname : isIdentifier form.naming.form = true := hvalid.name
  rw [run_writeArtifacts] at hrun
  cases hfiles : (writeFiles (form.artifacts.map fun a => a.planned directory) :
    StateM FileTree _).run tree with
  | mk outcome left =>
  rw [hfiles] at hrun
  rcases writeFiles_cases (separate_artifacts hname directory)
    (exists_locate_planned hname directory) hfiles with
    ⟨rfl, middle, staged, -, hstaged, hmoved, htargets⟩ | ⟨error, rfl, -⟩
  · obtain ⟨-, rfl⟩ := Prod.mk.inj hrun
    exact hmoved.inPlace hstaged htargets
  · exact absurd (Prod.mk.inj hrun).1 (by simp)

/-- Artifacts in place are written again without a change. -/
theorem writeArtifacts_again {artifacts : List Artifact} (h : form.generate = .ok artifacts)
    {directory : Path} (hplace : InPlace (artifacts.map fun a => a.planned directory) tree) :
    ∃ after, (writeArtifacts artifacts ⟨directory, false⟩ : StateM FileTree _).run tree =
      (.ok (artifacts.map fun a => a.planned directory), after) ∧ Alike tree after := by
  obtain ⟨hvalid, rfl⟩ := valid_of_generate h
  obtain ⟨after, hfiles, halike⟩ :=
    hplace.exists_writeFiles (separate_artifacts hvalid.name directory)
  refine ⟨after, ?_, halike⟩
  rw [run_writeArtifacts, hfiles]

end Form

end FormScaffold
