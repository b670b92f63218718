import FormScaffold.Proofs.Artifact.Places
import FormScaffold.Proofs.Artifact.References

/-!
# Written artifacts

The artifacts of a form are written as a whole or not at all, and a dry run lists the same files
(`Form.writeArtifacts_outcome`).  What remains of a run that fails is directories.
-/

namespace FormScaffold

open FileTree

/-! ## Writing -/

/-- The paths of directories above files. -/
def AboveAny (files : List PlannedFile) (directory : Path) : Prop :=
  ∃ file ∈ files, directory ∈ file.path.ancestors

theorem growsBy_makeParents (files : List PlannedFile) (tree : FileTree) :
    GrowsBy (AboveAny files) tree ((makeParents files : StateM FileTree _).run tree).2 := by
  induction files generalizing tree with
  | nil => exact .refl _ tree
  | cons file files ih =>
    have hrest (tree : FileTree) :
        GrowsBy (AboveAny (file :: files)) tree
          ((makeParents files : StateM FileTree _).run tree).2 :=
      (ih tree).mono fun path ⟨other, hother, habove⟩ =>
        ⟨other, List.mem_cons_of_mem file hother, habove⟩
    rw [makeParents]
    split
    · exact hrest tree
    · next parent hparent =>
      have hfirst := (growsBy_makeDirectories hparent tree).mono
        fun path habove => (⟨file, List.mem_cons_self, Path.mem_ancestors_iff.mpr habove⟩ :
          AboveAny (file :: files) path)
      rw [run_bind]
      split
      · exact hfirst.trans (hrest _)
      · exact hfirst

/-- Files are written: each is held where its path leads, in directories, and nothing is left of
the files in which they were staged.  Anything else is unchanged or a new directory above a file. -/
structure Written (files : List PlannedFile) (before after : FileTree) : Prop where
  current : after.current = before.current
  contents : ∀ file ∈ files, after.read file.path = .ok file.contents.toUTF8 ∧
    file.contents.toUTF8.size = file.size
  unstaged : ∀ file ∈ files, after.find (stagingPath file.path) = .error .notFound
  above : ∀ directory : Path, AboveAny files directory → directory.isEmpty = false →
    after.kind directory = .ok .directory
  other : ∀ location, (∀ file ∈ files, after.locate file.path ≠ .ok location) →
    (∀ file ∈ files, after.locate (stagingPath file.path) ≠ .ok location) →
    after.get? location = before.get? location ∨
      before.get? location = none ∧ after.get? location = some .directory ∧
        ∃ directory, AboveAny files directory ∧ after.locate directory = .ok location

/-- Files are not written: there is nothing new but directories above them, and nothing is lost but
files at their staging paths. -/
structure Unwritten (files : List PlannedFile) (before after : FileTree) : Prop where
  current : after.current = before.current
  get? : ∀ location, after.get? location = before.get? location ∨
    (before.get? location = none ∧ after.get? location = some .directory ∧
      ∃ directory, AboveAny files directory ∧ after.locate directory = .ok location) ∨
    (∃ bytes, before.get? location = some (.file bytes)) ∧ after.get? location = none ∧
      ∃ file ∈ files, after.locate (stagingPath file.path) = .ok location

namespace FileTree.GrowsBy

variable {files : List PlannedFile} {before middle staged after : FileTree}

/-- A location is as it was after directories have been made and files have come and gone. -/
theorem get?_of_sameDirectories {P : Path → Prop} (h : GrowsBy P before middle)
    (hsame : SameDirectories middle after) {location : List String}
    (hget : after.get? location = middle.get? location) :
    after.get? location = before.get? location ∨
      before.get? location = none ∧ after.get? location = some .directory ∧
        ∃ path, P path ∧ after.locate path = .ok location := by
  rw [hget]
  exact (h.get? location).imp_right fun ⟨hnone, hdirectory, path, hpath, hlocate⟩ =>
    ⟨hnone, hdirectory, path, hpath, hsame.locate_iff.mpr hlocate⟩

theorem unwritten (h : GrowsBy (AboveAny files) before middle)
    (hdiscarded : Discarded (files.map (stagingPath ·.path)) middle after) :
    Unwritten files before after := by
  refine ⟨hdiscarded.same.forth.current.trans h.current, fun location => ?_⟩
  rcases hdiscarded.get? location with hkept | ⟨hgone, path, hpath, hlocate⟩
  · exact (h.get?_of_sameDirectories hdiscarded.same hkept).imp_right .inl
  · obtain ⟨file, hfile, rfl⟩ := List.mem_map.mp hpath
    -- What is gone was no directory, so it was there before or it was nothing.
    rcases h.get? location with hsame | ⟨-, hdirectory, -⟩
    · cases hbefore : before.get? location with
      | none => exact .inl hgone
      | some entry =>
        cases entry with
        | directory =>
          have hafter := hdiscarded.same.forth.get? (hsame.trans hbefore)
          exact absurd (hgone.symm.trans hafter) (by simp)
        | file bytes =>
          exact .inr (.inr ⟨⟨bytes, rfl⟩, hgone, file, hfile,
            hdiscarded.same.locate_iff.mpr hlocate⟩)
    · have hafter := hdiscarded.same.forth.get? hdirectory
      exact absurd (hgone.symm.trans hafter) (by simp)

theorem written (h : GrowsBy (AboveAny files) before middle) (hstaged : Staged files middle staged)
    (hmoved : Moved files staged after)
    (htargets : ∀ file ∈ files, ∃ location, middle.locate file.path = .ok location) :
    Written files before after := by
  have hsame : SameDirectories middle after := hstaged.same.trans hmoved.same
  refine ⟨hsame.forth.current.trans h.current, fun file hfile => ⟨?_, rfl⟩, fun file hfile => ?_,
    fun directory habove hne => ?_, fun location htarget hstaging => ?_⟩
  · obtain ⟨location, hlocate⟩ := htargets file hfile
    exact read_eq_ok_iff.mpr ⟨location, hsame.locate_iff.mpr hlocate,
      hmoved.arrived file hfile location (hstaged.same.locate_iff.mpr hlocate)⟩
  · obtain ⟨location, hlocate, -⟩ := hstaged.held file hfile
    have hnone := hmoved.left file hfile location (hstaged.same.locate_iff.mpr hlocate)
    rw [find, hsame.locate_iff.mpr hlocate, Except.ok_bind, hnone]
  · obtain ⟨file, hfile, habove⟩ := habove
    obtain ⟨location, hlocate⟩ := htargets file hfile
    have habove := Path.mem_ancestors_iff.mp habove
    rw [kind, find_of_isAbove (hsame.locate_iff.mpr hlocate) habove hne]
    rfl
  · refine h.get?_of_sameDirectories hsame ?_
    rw [hmoved.kept location
      (fun file hfile hlocate => htarget file hfile (hmoved.same.locate_iff.mpr hlocate))
      (fun file hfile hlocate => hstaging file hfile (hmoved.same.locate_iff.mpr hlocate))]
    exact hstaged.kept location fun file hfile hlocate =>
      hstaging file hfile (hsame.locate_iff.mpr hlocate)

end FileTree.GrowsBy

/-- Files are staged and moved once their directories are made, if they never get in each other's
way and each can be moved to its target once all are staged.  Otherwise nothing is written. -/
theorem writeFiles_cases {files : List PlannedFile} (hseparate : ∀ tree, Separate tree files)
    (htargets : ∀ tree : FileTree,
      (∀ file ∈ files, ∃ location, tree.locate (stagingPath file.path) = .ok location) →
      ∀ file ∈ files, ∃ location, tree.locate file.path = .ok location)
    {tree after : FileTree} {result : Except WriteError Unit}
    (hrun : (writeFiles files : StateM FileTree _).run tree = (result, after)) :
    (result = .ok () ∧ ∃ middle staged, GrowsBy (AboveAny files) tree middle ∧
      Staged files middle staged ∧ Moved files staged after ∧
      ∀ file ∈ files, ∃ location, middle.locate file.path = .ok location) ∨
      ∃ error, result = .error error ∧ Unwritten files tree after := by
  have hgrows := growsBy_makeParents files tree
  rw [writeFiles, run_bind] at hrun
  cases hparents : (makeParents files : StateM FileTree _).run tree with
  | mk made middle =>
  rw [hparents] at hrun hgrows
  cases made with
  | error error =>
    obtain ⟨rfl, rfl⟩ := Prod.mk.inj hrun
    exact .inr ⟨error, rfl, hgrows.unwritten (.refl _ middle)⟩
  | ok _ =>
    dsimp only at hrun
    rw [run_bind] at hrun
    cases hstage : (stageAll [] files : StateM FileTree _).run middle with
    | mk result' staged =>
    rw [hstage] at hrun
    cases result' with
    | error error =>
      obtain ⟨rfl, rfl⟩ := Prod.mk.inj hrun
      exact .inr ⟨error, rfl, hgrows.unwritten (discarded_of_stageAll hstage).1⟩
    | ok _ =>
      have hstaged := staged_of_stageAll (hseparate middle).stagings hstage
      have hlocated := htargets middle fun file hfile =>
        (hstaged.held file hfile).imp fun _ h => h.1
      obtain ⟨moved, hmove, hmoved⟩ := exists_moved (hseparate staged) (hstaged.ready hlocated) []
      obtain ⟨rfl, rfl⟩ := Prod.mk.inj (hmove.symm.trans hrun)
      exact .inl ⟨rfl, middle, staged, hgrows, hstaged, hmoved, hlocated⟩

/-- Files are written as a whole or not at all. -/
theorem writeFiles_outcome {files : List PlannedFile} (hseparate : ∀ tree, Separate tree files)
    (htargets : ∀ tree : FileTree,
      (∀ file ∈ files, ∃ location, tree.locate (stagingPath file.path) = .ok location) →
      ∀ file ∈ files, ∃ location, tree.locate file.path = .ok location)
    {tree after : FileTree} {result : Except WriteError Unit}
    (hrun : (writeFiles files : StateM FileTree _).run tree = (result, after)) :
    (result = .ok () ∧ Written files tree after) ∨
      ∃ error, result = .error error ∧ Unwritten files tree after := by
  refine (writeFiles_cases hseparate htargets hrun).imp_left fun ⟨hok, h⟩ => ⟨hok, ?_⟩
  obtain ⟨middle, staged, hgrows, hstaged, hmoved, hlocated⟩ := h
  exact hgrows.written hstaged hmoved hlocated

namespace Form

variable {form : Form}

/-! ## Writing artifacts -/

theorem run_writeArtifacts (artifacts : List Artifact) (directory : Path) (tree : FileTree) :
    (writeArtifacts artifacts ⟨directory, false⟩ : StateM FileTree _).run tree =
      match (writeFiles (artifacts.map fun a => a.planned directory) : StateM FileTree _).run tree
      with
      | (.ok (), after) => (.ok (artifacts.map fun a => a.planned directory), after)
      | (.error error, after) => (.error error, after) := by
  rw [writeArtifacts]
  simp only [Bool.false_eq_true, if_false]
  rw [run_bind]
  cases (writeFiles (artifacts.map fun a => a.planned directory) : StateM FileTree _).run tree with
  | mk result after => cases result <;> rfl

/-- The artifacts of a form are written as a whole or not at all, and a dry run changes nothing and
lists the files that would be written. -/
theorem writeArtifacts_outcome {artifacts : List Artifact} (h : form.generate = .ok artifacts)
    (directory : Path) (tree : FileTree) :
    let files := artifacts.map fun artifact => artifact.planned directory
    (writeArtifacts artifacts ⟨directory, true⟩ : StateM FileTree _).run tree = (.ok files, tree) ∧
      ∀ result after,
        (writeArtifacts artifacts ⟨directory, false⟩ : StateM FileTree _).run tree =
          (result, after) →
        match result with
        | .ok written => written = files ∧ Written files tree after
        | .error _ => Unwritten files tree after := by
  obtain ⟨hvalid, rfl⟩ := valid_of_generate h
  have hname : isIdentifier form.naming.form = true := hvalid.name
  refine ⟨rfl, fun result after hrun => ?_⟩
  rw [run_writeArtifacts] at hrun
  cases hfiles : (writeFiles (form.artifacts.map fun a => a.planned directory) :
    StateM FileTree _).run tree with
  | mk outcome left =>
  rw [hfiles] at hrun
  rcases writeFiles_outcome (separate_artifacts hname directory)
    (exists_locate_planned hname directory) hfiles with
    ⟨rfl, hwritten⟩ | ⟨error, rfl, hunwritten⟩
  · obtain ⟨rfl, rfl⟩ := Prod.mk.inj hrun
    exact ⟨rfl, hwritten⟩
  · obtain ⟨rfl, rfl⟩ := Prod.mk.inj hrun
    exact hunwritten

/-- A form with one button. -/
def contact : Form :=
  { named "contact" with buttons := [{ text := "Send", variant := .default }] }

/-- A tree with a file left from another run, and with a directory where one is to be written. -/
def littered : FileTree where
  entries :=
    [ (["here"], .directory), (["here", ".contactSchema.ts.formgen-tmp"], .file "left".toUTF8),
      (["there"], .directory), (["there", "contactConfig.json"], .directory) ]
  current := []

theorem writeArtifacts_outcome_contact :
    contact.generate = .ok contact.artifacts ∧
      (∃ after, (writeArtifacts contact.artifacts ⟨⟨["here"]⟩, false⟩ : StateM FileTree _).run
          littered = (.ok (contact.artifacts.map fun a => a.planned ⟨["here"]⟩), after) ∧
        Written (contact.artifacts.map fun a => a.planned ⟨["here"]⟩) littered after) ∧
      ∃ error after, (writeArtifacts contact.artifacts ⟨⟨["there"]⟩, false⟩ :
          StateM FileTree _).run littered = (.error error, after) ∧
        Unwritten (contact.artifacts.map fun a => a.planned ⟨["there"]⟩) littered after := by
  have h : contact.generate = .ok contact.artifacts := generate_of_valid (by decide) (by decide)
  refine ⟨h, ?_, ?_⟩
  · have hok : ((writeArtifacts contact.artifacts ⟨⟨["here"]⟩, false⟩ :
        StateM FileTree _).run littered).1.isOk = true := by decide +kernel
    cases hrun : (writeArtifacts contact.artifacts ⟨⟨["here"]⟩, false⟩ :
      StateM FileTree _).run littered with
    | mk result after =>
    have houtcome := (writeArtifacts_outcome h ⟨["here"]⟩ littered).2 result after hrun
    rw [hrun] at hok
    cases result with
    | ok written =>
      obtain ⟨rfl, hwritten⟩ := houtcome
      exact ⟨after, rfl, hwritten⟩
    | error error => exact absurd hok Bool.false_ne_true
  · have hfails : ((writeArtifacts contact.artifacts ⟨⟨["there"]⟩, false⟩ :
        StateM FileTree _).run littered).1.isOk = false := by decide +kernel
    cases hrun : (writeArtifacts contact.artifacts ⟨⟨["there"]⟩, false⟩ :
      StateM FileTree _).run littered with
    | mk result after =>
    have houtcome := (writeArtifacts_outcome h ⟨["there"]⟩ littered).2 result after hrun
    rw [hrun] at hfails
    cases result with
    | ok written => exact absurd hfails.symm Bool.false_ne_true
    | error error => exact ⟨error, after, rfl, houtcome⟩

end Form

end FormScaffold
