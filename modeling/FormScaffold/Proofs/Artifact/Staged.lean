import FormScaffold.Artifact.Write
import FormScaffold.Proofs.Files.Directories

/-!
# Staging and moving

Files are written in three phases, which make directories, stage the files and move them.  Only
the first changes the directories of the tree, so all paths lead to the same locations in the
others.  When staging fails, what has been staged is removed (`discarded_of_stageAll`); when it
succeeds, every file can be moved (`exists_moved`).
-/

namespace FormScaffold

open FileTree

/-! ## Paths that lead to different locations -/

/-- Two paths that never lead to the same location. -/
def FileTree.Apart (tree : FileTree) (path other : Path) : Prop :=
  ∀ location, tree.locate path = .ok location → tree.locate other ≠ .ok location

theorem FileTree.Apart.congr {before after : FileTree} {path other : Path}
    (h : before.Apart path other) (hsame : SameDirectories before after) :
    after.Apart path other := fun location hpath hother =>
  h location (hsame.locate_iff.mp hpath) (hsame.locate_iff.mp hother)

/-- Files whose targets and staging files do not get in each other's way. -/
structure Separate (tree : FileTree) (files : List PlannedFile) : Prop where
  targets : files.Pairwise fun file other => tree.Apart file.path other.path
  stagings : files.Pairwise fun file other =>
    tree.Apart (stagingPath file.path) (stagingPath other.path)
  crossing : ∀ file ∈ files, ∀ other ∈ files, tree.Apart file.path (stagingPath other.path)

variable {tree after : FileTree}

theorem Separate.tail {file : PlannedFile} {files : List PlannedFile}
    (h : Separate tree (file :: files)) (hsame : SameDirectories tree after) :
    Separate after files where
  targets := (List.pairwise_cons.mp h.targets).2.imp fun hpair => hpair.congr hsame
  stagings := (List.pairwise_cons.mp h.stagings).2.imp fun hpair => hpair.congr hsame
  crossing := fun other hother another hanother =>
    (h.crossing other (List.mem_cons_of_mem file hother) another
      (List.mem_cons_of_mem file hanother)).congr hsame

/-! ## Discarding -/

/-- Nothing has changed but for files at some paths, which are gone. -/
structure Discarded (paths : List Path) (before after : FileTree) : Prop where
  same : SameDirectories before after
  get? : ∀ location : List String, after.get? location = before.get? location ∨
    after.get? location = none ∧ ∃ path ∈ paths, before.locate path = .ok location

/-- No files are left at some paths. -/
def Cleared (paths : List Path) (before after : FileTree) : Prop :=
  ∀ path ∈ paths, ∀ location, before.locate path = .ok location →
    before.get? location ≠ some .directory → after.get? location = none

theorem Discarded.refl (paths : List Path) (tree : FileTree) : Discarded paths tree tree :=
  ⟨.refl tree, fun _ => .inl rfl⟩

theorem Discarded.trans {before middle : FileTree} {paths more : List Path}
    (h : Discarded paths before middle) (h' : Discarded more middle after) :
    Discarded (paths ++ more) before after := by
  refine ⟨h.same.trans h'.same, fun location => ?_⟩
  rcases h'.get? location with hsame | ⟨hnone, path, hpath, hlocate⟩
  · rcases h.get? location with hsame' | ⟨hnone, path, hpath, hlocate⟩
    · exact .inl (hsame.trans hsame')
    · exact .inr ⟨hsame.trans hnone, path, List.mem_append_left _ hpath, hlocate⟩
  · exact .inr ⟨hnone, path, List.mem_append_right _ hpath, h.same.locate_iff.mp hlocate⟩

theorem discarded_remove (path : Path) (tree : FileTree) :
    Discarded [path] tree ((FileAccess.remove path : StateM FileTree _).run tree).2 ∧
      Cleared [path] tree ((FileAccess.remove path : StateM FileTree _).run tree).2 := by
  rw [run_remove]
  cases h : tree.remove path with
  | error fault =>
    refine ⟨.refl _ tree, fun other hother location hlocate hentry => ?_⟩
    obtain rfl := List.mem_singleton.mp hother
    cases hget : tree.get? location with
    | none => rfl
    | some entry =>
      cases entry with
      | directory => exact absurd hget hentry
      | file bytes =>
        have hok := remove_eq_ok_iff.mpr ⟨location, bytes, hlocate, hget, rfl⟩
        exact absurd (h.symm.trans hok) (by simp)
  | ok changed =>
    obtain ⟨location, bytes, hlocate, hget, rfl⟩ := remove_eq_ok_iff.mp h
    have hfile : tree.get? location ≠ some .directory := by simp [hget]
    have hself := get?_erase_self tree (ne_nil_of_get? hfile)
    refine ⟨⟨sameDirectories_erase hfile, fun other => ?_⟩, fun other hother place hplace _ => ?_⟩
    · by_cases hsame : other = location
      · exact .inr ⟨hsame ▸ hself, path, List.mem_singleton_self path, hsame ▸ hlocate⟩
      · exact .inl (get?_erase_of_ne tree hsame)
    · obtain rfl := List.mem_singleton.mp hother
      obtain rfl := Except.ok.inj (hlocate.symm.trans hplace)
      exact hself

/-- All files at the paths are removed, and nothing else is changed. -/
theorem discarded_discard (paths : List Path) (tree : FileTree) :
    Discarded paths tree ((discard paths : StateM FileTree Unit).run tree).2 ∧
      Cleared paths tree ((discard paths : StateM FileTree Unit).run tree).2 := by
  induction paths generalizing tree with
  | nil => exact ⟨.refl [] tree, fun path hpath => absurd hpath List.not_mem_nil⟩
  | cons path paths ih =>
    rw [discard, run_bind]
    obtain ⟨hfirst, hgone⟩ := discarded_remove path tree
    obtain ⟨hrest, hcleared⟩ := ih ((FileAccess.remove path : StateM FileTree _).run tree).2
    refine ⟨hfirst.trans hrest, fun other hother location hlocate hentry => ?_⟩
    rcases List.mem_cons.mp hother with rfl | hother
    · -- What is gone after the first step does not come back.
      rcases hrest.get? location with hsame | ⟨hnone, -⟩
      · rw [hsame]
        exact hgone other (List.mem_singleton_self other) location hlocate hentry
      · exact hnone
    · exact hcleared other hother location (hfirst.same.locate_iff.mpr hlocate)
        (mt hfirst.same.get?_iff.mp hentry)

/-! ## Staging -/

/-- A file is staged where no directory is and beside a target where none is, or nothing happens. -/
theorem stage_cases {file : PlannedFile} {result : Except WriteError Unit}
    (h : (stage file : StateM FileTree _).run tree = (result, after)) :
    (∃ location, result = .ok () ∧ tree.kind file.path ≠ .ok .directory ∧
      tree.locate (stagingPath file.path) = .ok location ∧
      tree.get? location ≠ some .directory ∧
      after = tree.set location (.file file.contents.toUTF8)) ∨
    ∃ error, result = .error error ∧ after = tree := by
  rw [stage, run_bind, run_isDirectory] at h
  by_cases hkind : tree.kind file.path = .ok .directory
  · rw [decide_eq_true hkind] at h
    obtain ⟨rfl, rfl⟩ := Prod.mk.inj h
    exact .inr ⟨_, rfl, rfl⟩
  · rw [decide_eq_false hkind] at h
    simp only [Bool.false_eq_true, if_false, run_bind, run_write] at h
    cases hwrite : tree.write (stagingPath file.path) file.contents.toUTF8 with
    | error fault =>
      rw [hwrite] at h
      obtain ⟨rfl, rfl⟩ := Prod.mk.inj h
      exact .inr ⟨_, rfl, rfl⟩
    | ok changed =>
      rw [hwrite] at h
      obtain ⟨rfl, rfl⟩ := Prod.mk.inj h
      obtain ⟨location, hlocate, hentry, rfl⟩ := write_eq_ok_iff.mp hwrite
      exact .inl ⟨location, rfl, hkind, hlocate, hentry, rfl⟩

/-- Files that are held at their staging paths, beside targets that are no directories. -/
structure Staged (files : List PlannedFile) (before after : FileTree) : Prop where
  same : SameDirectories before after
  held : ∀ file ∈ files, ∃ location, before.locate (stagingPath file.path) = .ok location ∧
    after.get? location = some (.file file.contents.toUTF8)
  free : ∀ file ∈ files, before.kind file.path ≠ .ok .directory
  kept : ∀ location, (∀ file ∈ files, before.locate (stagingPath file.path) ≠ .ok location) →
    after.get? location = before.get? location

/-- Files are staged one after another, each where no other one is. -/
theorem staged_of_stageAll {staged : List Path} {files : List PlannedFile}
    (hapart : files.Pairwise fun file other =>
      tree.Apart (stagingPath file.path) (stagingPath other.path))
    (h : (stageAll staged files : StateM FileTree _).run tree = (.ok (), after)) :
    Staged files tree after := by
  induction files generalizing tree staged with
  | nil =>
    obtain ⟨-, rfl⟩ := Prod.mk.inj h
    exact ⟨.refl tree, by simp, by simp, fun _ _ => rfl⟩
  | cons file files ih =>
    obtain ⟨hfile, hfiles⟩ := List.pairwise_cons.mp hapart
    rw [stageAll, run_bind] at h
    cases hstage : (stage file : StateM FileTree _).run tree with
    | mk result middle =>
    rw [hstage] at h
    rcases stage_cases hstage with ⟨place, rfl, hfree, hplace, hentry, rfl⟩ | ⟨error, rfl, rfl⟩
    · have hset := sameDirectories_set hentry file.contents.toUTF8
      have hrest := ih (hfiles.imp fun hpair => hpair.congr hset) h
      refine ⟨hset.trans hrest.same, ?_, ?_, fun location hlocation => ?_⟩
      · rintro other (_ | ⟨_, hother⟩)
        · refine ⟨place, hplace, ?_⟩
          rw [hrest.kept place fun other hother hlocate =>
            hfile other hother place hplace (hset.locate_iff.mp hlocate)]
          exact get?_set_self tree _ (ne_nil_of_get? hentry)
        · obtain ⟨location, hlocate, hget⟩ := hrest.held other hother
          exact ⟨location, hset.locate_iff.mp hlocate, hget⟩
      · rintro other (_ | ⟨_, hother⟩)
        · exact hfree
        · exact mt hset.kind_iff.mpr (hrest.free other hother)
      · obtain ⟨hne, hothers⟩ := List.forall_mem_cons.mp hlocation
        rw [hrest.kept location fun other hother => mt hset.locate_iff.mp (hothers other hother)]
        exact get?_set_of_ne tree _ (by rintro rfl; exact hne hplace)
    · exact absurd (Prod.mk.inj h).1 (by simp)

/-- A file that can be staged: neither its target nor its staging path leads to a directory. -/
structure Stageable (tree : FileTree) (file : PlannedFile) : Prop where
  free : tree.kind file.path ≠ .ok .directory
  located : ∃ location, tree.locate (stagingPath file.path) = .ok location ∧
    tree.get? location ≠ some .directory

theorem Stageable.congr {file : PlannedFile} (h : Stageable tree file)
    (hsame : SameDirectories tree after) : Stageable after file := by
  obtain ⟨location, hlocate, hentry⟩ := h.located
  exact ⟨mt hsame.kind_iff.mp h.free, location, hsame.locate_iff.mpr hlocate,
    mt hsame.get?_iff.mp hentry⟩

/-- Files that can be staged are: no step fails. -/
theorem exists_stageAll {files : List PlannedFile} (h : ∀ file ∈ files, Stageable tree file)
    (staged : List Path) :
    ∃ after, (stageAll staged files : StateM FileTree _).run tree = (.ok (), after) := by
  induction files generalizing tree staged with
  | nil => exact ⟨tree, rfl⟩
  | cons file files ih =>
    obtain ⟨hfile, hfiles⟩ := List.forall_mem_cons.mp h
    obtain ⟨location, hlocate, hentry⟩ := hfile.located
    have hwrite : tree.write (stagingPath file.path) file.contents.toUTF8 =
        .ok (tree.set location (.file file.contents.toUTF8)) :=
      write_eq_ok_iff.mpr ⟨location, hlocate, hentry, rfl⟩
    have hstage : (stage file : StateM FileTree _).run tree =
        (.ok (), tree.set location (.file file.contents.toUTF8)) := by
      rw [stage, run_bind, run_isDirectory, decide_eq_false hfile.free]
      simp only [Bool.false_eq_true, if_false, run_bind, run_write, hwrite]
      rfl
    have hset := sameDirectories_set hentry file.contents.toUTF8
    rw [stageAll, run_bind, hstage]
    exact ih (fun other hother => (hfiles other hother).congr hset) _

/-- When staging fails, the files that were staged are removed. -/
theorem discarded_of_stageAll {staged : List Path} {files : List PlannedFile} {error : WriteError}
    (h : (stageAll staged files : StateM FileTree _).run tree = (.error error, after)) :
    Discarded (staged ++ files.map (stagingPath ·.path)) tree after ∧
      Cleared staged tree after := by
  induction files generalizing tree staged with
  | nil => exact absurd (Prod.mk.inj h).1 (by simp)
  | cons file files ih =>
    rw [stageAll, run_bind] at h
    cases hstage : (stage file : StateM FileTree _).run tree with
    | mk result middle =>
    rw [hstage] at h
    rcases stage_cases hstage with ⟨place, rfl, hfree, hplace, hentry, rfl⟩ | ⟨error', rfl, rfl⟩
    · have hset := sameDirectories_set hentry file.contents.toUTF8
      obtain ⟨hrest, hcleared⟩ := ih h
      -- The file that was just staged is among those that are removed when a later one fails.
      have hgone : after.get? place = none :=
        hcleared _ (by simp) place (hset.locate_iff.mpr hplace) (mt hset.get?_iff.mp hentry)
      refine ⟨⟨hset.trans hrest.same, fun location => ?_⟩,
        fun path hpath location hlocate hlocation =>
          hcleared path (List.mem_append_left _ hpath) location (hset.locate_iff.mpr hlocate)
            (mt hset.get?_iff.mp hlocation)⟩
      by_cases hsame : location = place
      · subst hsame
        exact .inr ⟨hgone, stagingPath file.path, by simp, hplace⟩
      · rcases hrest.get? location with hkept | ⟨hnone, path, hpath, hlocate⟩
        · exact .inl (hkept.trans (get?_set_of_ne tree _ hsame))
        · exact .inr ⟨hnone, path, by simpa using hpath, hset.locate_iff.mp hlocate⟩
    · obtain ⟨hdiscarded, hcleared⟩ := discarded_discard staged middle
      obtain ⟨-, rfl⟩ := Prod.mk.inj h
      refine ⟨⟨hdiscarded.same, fun location => ?_⟩, hcleared⟩
      exact (hdiscarded.get? location).imp_right fun ⟨hnone, path, hpath, hlocate⟩ =>
        ⟨hnone, path, List.mem_append_left _ hpath, hlocate⟩

/-! ## Moving -/

/-- Files that have left their staging paths for their targets. -/
structure Moved (files : List PlannedFile) (before after : FileTree) : Prop where
  same : SameDirectories before after
  arrived : ∀ file ∈ files, ∀ location, before.locate file.path = .ok location →
    after.get? location = some (.file file.contents.toUTF8)
  left : ∀ file ∈ files, ∀ location, before.locate (stagingPath file.path) = .ok location →
    after.get? location = none
  kept : ∀ location, (∀ file ∈ files, before.locate file.path ≠ .ok location) →
    (∀ file ∈ files, before.locate (stagingPath file.path) ≠ .ok location) →
    after.get? location = before.get? location

/-- A file that is staged and whose target is free. -/
structure Ready (tree : FileTree) (file : PlannedFile) (origin target : List String) : Prop where
  staging : tree.locate (stagingPath file.path) = .ok origin
  held : tree.get? origin = some (.file file.contents.toUTF8)
  located : tree.locate file.path = .ok target
  free : tree.get? target ≠ some .directory

namespace Ready

variable {file : PlannedFile} {origin target : List String}

theorem rename (h : Ready tree file origin target) :
    tree.rename (stagingPath file.path) file.path =
      .ok ((tree.erase origin).set target (.file file.contents.toUTF8)) :=
  rename_eq_ok h.staging h.held h.located h.free

theorem moved (h : Ready tree file origin target)
    (hapart : tree.Apart file.path (stagingPath file.path)) :
    Moved [file] tree ((tree.erase origin).set target (.file file.contents.toUTF8)) := by
  have horigin : tree.get? origin ≠ some .directory := by simp [h.held]
  have hne : target ≠ origin := by
    rintro rfl
    exact hapart target h.located h.staging
  have hfree : (tree.erase origin).get? target ≠ some .directory := by
    rw [get?_erase_of_ne tree hne]
    exact h.free
  refine ⟨(sameDirectories_erase horigin).trans (sameDirectories_set hfree _), ?_, ?_, ?_⟩
  · intro other hother location hlocate
    obtain rfl := List.mem_singleton.mp hother
    obtain rfl := Except.ok.inj (h.located.symm.trans hlocate)
    exact get?_set_self _ _ (ne_nil_of_get? h.free)
  · intro other hother location hlocate
    obtain rfl := List.mem_singleton.mp hother
    obtain rfl := Except.ok.inj (h.staging.symm.trans hlocate)
    rw [get?_set_of_ne _ _ hne.symm, get?_erase_self tree (ne_nil_of_get? horigin)]
  · intro location htarget hstaging
    have hfile := List.mem_singleton_self file
    rw [get?_set_of_ne _ _ (by rintro rfl; exact htarget file hfile h.located),
      get?_erase_of_ne tree (by rintro rfl; exact hstaging file hfile h.staging)]

/-- A file stays ready while another one is moved. -/
theorem of_moved {first : PlannedFile} {files : List PlannedFile} {middle : FileTree}
    (h : Ready tree file origin target) (hseparate : Separate tree (first :: files))
    (hfile : file ∈ files) (hfirst : Moved [first] tree middle) :
    Ready middle file origin target := by
  have htarget : ∀ other ∈ [first], tree.locate other.path ≠ .ok origin := by
    rintro other hother hlocate
    obtain rfl := List.mem_singleton.mp hother
    exact hseparate.crossing other List.mem_cons_self file (List.mem_cons_of_mem other hfile)
      origin hlocate h.staging
  have hstaging : ∀ other ∈ [first], tree.locate (stagingPath other.path) ≠ .ok origin := by
    rintro other hother hlocate
    obtain rfl := List.mem_singleton.mp hother
    exact (List.pairwise_cons.mp hseparate.stagings).1 file hfile origin hlocate h.staging
  refine ⟨hfirst.same.locate_iff.mpr h.staging, ?_, hfirst.same.locate_iff.mpr h.located,
    mt hfirst.same.get?_iff.mp h.free⟩
  rw [hfirst.kept origin htarget hstaging, h.held]

end Ready

/-- Staged files are ready if their targets can be reached. -/
theorem Staged.ready {files : List PlannedFile} {before : FileTree} (h : Staged files before after)
    (htargets : ∀ file ∈ files, ∃ location, before.locate file.path = .ok location) :
    ∀ file ∈ files, ∃ origin target, Ready after file origin target := by
  intro file hfile
  obtain ⟨origin, horigin, hheld⟩ := h.held file hfile
  obtain ⟨target, htarget⟩ := htargets file hfile
  refine ⟨origin, target, h.same.locate_iff.mpr horigin, hheld, h.same.locate_iff.mpr htarget,
    fun hdirectory => h.free file hfile ?_⟩
  exact kind_eq_directory_iff.mpr ⟨target, htarget, h.same.get?_iff.mp hdirectory⟩

theorem moved_cons {file : PlannedFile} {files : List PlannedFile} {middle : FileTree}
    (hseparate : Separate tree (file :: files)) (hfirst : Moved [file] tree middle)
    (hrest : Moved files middle after) : Moved (file :: files) tree after := by
  obtain ⟨htargets, -⟩ := List.pairwise_cons.mp hseparate.targets
  obtain ⟨hstagings, -⟩ := List.pairwise_cons.mp hseparate.stagings
  have hlocate {path : Path} {location : List String} :
      middle.locate path = .ok location ↔ tree.locate path = .ok location := hfirst.same.locate_iff
  have hself := List.mem_singleton_self file
  have hhead : file ∈ file :: files := List.mem_cons_self
  refine ⟨hfirst.same.trans hrest.same, ?_, ?_, fun location htarget hstaging => ?_⟩
  · rintro other (_ | ⟨_, hother⟩) location hlocation
    · -- No other file is moved to where this one is, or away from there.
      rw [hrest.kept location
        (fun other hother => mt hlocate.mp (htargets other hother location hlocation))
        (fun other hother => mt hlocate.mp (hseparate.crossing file hhead other
          (List.mem_cons_of_mem file hother) location hlocation))]
      exact hfirst.arrived file hself location hlocation
    · exact hrest.arrived other hother location (hlocate.mpr hlocation)
  · rintro other (_ | ⟨_, hother⟩) location hlocation
    · rw [hrest.kept location
        (fun other hother hmoved => hseparate.crossing other (List.mem_cons_of_mem file hother) file
          hhead location (hlocate.mp hmoved) hlocation)
        (fun other hother => mt hlocate.mp (hstagings other hother location hlocation))]
      exact hfirst.left file hself location hlocation
    · exact hrest.left other hother location (hlocate.mpr hlocation)
  · obtain ⟨htarget, htargets⟩ := List.forall_mem_cons.mp htarget
    obtain ⟨hstaging, hstagings⟩ := List.forall_mem_cons.mp hstaging
    rw [hrest.kept location (fun other hother => mt hlocate.mp (htargets other hother))
      (fun other hother => mt hlocate.mp (hstagings other hother))]
    exact hfirst.kept location (by simpa using htarget) (by simpa using hstaging)

/-- Files that are staged and whose targets are free are all moved: no step fails. -/
theorem exists_moved {files : List PlannedFile} (hseparate : Separate tree files)
    (hready : ∀ file ∈ files, ∃ origin target, Ready tree file origin target)
    (created : List Path) :
    ∃ after, (moveAll created files : StateM FileTree _).run tree = (.ok (), after) ∧
      Moved files tree after := by
  induction files generalizing tree created with
  | nil => exact ⟨tree, rfl, .refl tree, by simp, by simp, fun _ _ _ => rfl⟩
  | cons file files ih =>
    obtain ⟨origin, target, hfile⟩ := hready file List.mem_cons_self
    have hfirst := hfile.moved (hseparate.crossing file List.mem_cons_self file List.mem_cons_self)
    have hreadyRest : ∀ other ∈ files, ∃ origin' target', Ready
        ((tree.erase origin).set target (.file file.contents.toUTF8)) other origin' target' := by
      intro other hother
      obtain ⟨origin', target', h⟩ := hready other (List.mem_cons_of_mem file hother)
      exact ⟨origin', target', h.of_moved hseparate hother hfirst⟩
    obtain ⟨present, hpresent⟩ := run_isPresent tree file.path
    obtain ⟨after, hrun, hmoved⟩ := ih (hseparate.tail hfirst.same) hreadyRest
      (if present then created else created ++ [file.path])
    refine ⟨after, ?_, moved_cons hseparate hfirst hmoved⟩
    rw [moveAll, run_bind, hpresent, run_bind, run_rename, hfile.rename]
    exact hrun

end FormScaffold
