import FormScaffold.Proofs.Session.Saved

/-!
# Forms that are generated again and again

A saved form that cannot be generated leaves the tree as it was.  Once it has been generated, it is
generated again from the snapshot among its own files, and all files stay what they are
(`regenerate_again`): a form that was loaded has no blank messages, so it is recovered as it is.
-/

namespace FormScaffold

open FileTree

variable {form : Form} {tree : FileTree}

/-- A form without blank messages that has been written is generated again from its own snapshot,
without a change. -/
theorem refresh_again {artifacts : List Artifact} (h : form.generate = .ok artifacts)
    (hcount : form.Countable) (hblank : form.withoutBlank = form) {directory : Path}
    {after : FileTree}
    (hrun : (writeForm form ⟨directory, false⟩ : StateM FileTree _).run tree = (.ok (), after)) :
    ∃ again, (refresh ((form.artifact .snapshot).target directory) ⟨directory, false⟩ :
      StateM FileTree _).run after = (.ok (), again) ∧ Alike after again := by
  obtain ⟨hvalid, rfl⟩ := Form.valid_of_generate h
  have hplace := inPlace_of_writeForm h hrun
  have hload := run_load_of_inPlace hvalid hcount hplace
  obtain ⟨again, hagain, halike⟩ := Form.writeArtifacts_again h hplace
  refine ⟨again, ?_, halike⟩
  rw [run_refresh_of_load hload, hblank, run_writeForm h, hagain]

theorem regenerate_result (path : Path) (settings : Settings) (screen : Screen) (tree : FileTree) :
    (((regenerate path settings : StateT Screen (StateM FileTree) _).run screen).run tree).1.1 =
      ((refresh path settings : StateM FileTree _).run tree).1 :=
  ((actsAs_regenerate path settings).run_eq screen tree).1

theorem regenerate_tree (path : Path) (settings : Settings) (screen : Screen) (tree : FileTree) :
    (((regenerate path settings : StateT Screen (StateM FileTree) _).run screen).run tree).2 =
      ((refresh path settings : StateM FileTree _).run tree).2 :=
  ((actsAs_regenerate path settings).run_eq screen tree).2

/-- A form that cannot be loaded or generated leaves the tree as it was.  One that has been generated
is generated again from the snapshot among its files, and every location holds what it held. -/
theorem regenerate_again (path : Path) (settings : Settings) (screen : Screen) (tree : FileTree) :
    let loaded := ((Snapshot.load path : StateM FileTree _).run tree).1
    let first := ((regenerate path settings : StateT Screen (StateM FileTree) _).run screen).run tree
    (∀ error, loaded = .error error → first.1.1 = .error (.load error) ∧ first.2 = tree) ∧
      ∀ saved, loaded = .ok saved →
        (∀ error, saved.form.generate = .error error →
          first.1.1 = .error (.generate saved.form.name error) ∧ first.2 = tree) ∧
        (saved.form.Countable → settings.dryRun = false → first.1.1 = .ok () →
          ∃ artifacts snapshot, saved.form.generate = .ok artifacts ∧
            artifacts.filter (fun a => a.role = .snapshot) = [snapshot] ∧
            ∀ other : Screen,
              let second := ((regenerate (snapshot.target settings.directory) settings :
                StateT Screen (StateM FileTree) _).run other).run first.2
              second.1.1 = .ok () ∧ Alike first.2 second.2) := by
  obtain ⟨loaded, hload⟩ := run_load path tree
  simp only [regenerate_result, regenerate_tree]
  rw [hload]
  constructor
  · rintro error rfl
    rw [run_refresh_of_error hload]
    exact ⟨rfl, rfl⟩
  · rintro saved rfl
    rw [run_refresh_of_load hload]
    constructor
    · intro error hgenerate
      rw [writeForm, hgenerate]
      exact ⟨rfl, rfl⟩
    · intro hcount hwrites hok
      obtain ⟨directory, dryRun⟩ := settings
      obtain rfl : dryRun = false := hwrites
      cases hgenerate : saved.form.generate with
      | error error =>
        rw [writeForm, hgenerate] at hok
        exact absurd hok (by simp)
      | ok artifacts =>
        cases hrun : (writeForm saved.form ⟨directory, false⟩ : StateM FileTree _).run tree with
        | mk result after =>
        rw [hrun] at hok
        obtain rfl : result = .ok () := hok
        obtain ⟨again, hagain, halike⟩ := refresh_again hgenerate hcount
          (Snapshot.withoutBlank_of_load hload) hrun
        refine ⟨artifacts, saved.form.artifact .snapshot, rfl, ?_, fun _ => ?_⟩
        · obtain ⟨-, rfl⟩ := Form.valid_of_generate hgenerate
          exact saved.form.filter_artifacts saved.form.snapshot_mem_roles
        · rw [hagain]
          exact ⟨rfl, halike⟩

/-- A first run on the saved form ends well. -/
theorem regenerate_contact (screen : Screen) :
    (((regenerate ⟨["contactConfig.json"]⟩ ⟨⟨["generated-form"]⟩, false⟩ :
      StateT Screen (StateM FileTree) _).run screen).run savedContact).1.1 = .ok () := by
  have hgenerate : Form.contact.generate = .ok Form.contact.artifacts :=
    Form.generate_of_valid (by decide) (by decide)
  obtain ⟨after, hrun⟩ := exists_run_writeForm hgenerate
    (by decide +kernel : ((writeArtifacts Form.contact.artifacts ⟨⟨["generated-form"]⟩, false⟩ :
      StateM FileTree _).run savedContact).1.isOk = true)
  rw [regenerate_result, run_refresh_of_load run_load_contact, hrun]

theorem regenerate_again_contact :
    ∃ artifacts snapshot, Form.contact.generate = .ok artifacts ∧
      artifacts.filter (fun a => a.role = .snapshot) = [snapshot] ∧
      ∃ screen first, ((regenerate ⟨["contactConfig.json"]⟩ ⟨⟨["generated-form"]⟩, false⟩ :
          StateT Screen (StateM FileTree) _).run (.withKeys none)).run savedContact =
            ((.ok (), screen), first) ∧
        ∃ other second, ((regenerate (snapshot.target ⟨["generated-form"]⟩)
            ⟨⟨["generated-form"]⟩, false⟩ : StateT Screen (StateM FileTree) _).run screen).run first =
              ((.ok (), other), second) ∧
          Alike first second := by
  have hload : ((Snapshot.load ⟨["contactConfig.json"]⟩ : StateM FileTree _).run savedContact).1 =
      .ok ⟨Form.contact, some generatorVersion⟩ := by rw [run_load_contact]
  have hcount : Form.contact.Countable := ⟨by decide, by decide⟩
  have hok := regenerate_contact (.withKeys none)
  obtain ⟨-, hloaded⟩ := regenerate_again ⟨["contactConfig.json"]⟩ ⟨⟨["generated-form"]⟩, false⟩
    (.withKeys none) savedContact
  obtain ⟨artifacts, snapshot, hartifacts, hfilter, hagain⟩ :=
    (hloaded _ hload).2 hcount rfl hok
  refine ⟨artifacts, snapshot, hartifacts, hfilter, ?_⟩
  rcases hrun : ((regenerate ⟨["contactConfig.json"]⟩ ⟨⟨["generated-form"]⟩, false⟩ :
    StateT Screen (StateM FileTree) _).run (.withKeys none)).run savedContact with
    ⟨⟨result, screen⟩, first⟩
  rw [hrun] at hok hagain
  obtain rfl : result = .ok () := hok
  refine ⟨screen, first, rfl, ?_⟩
  obtain ⟨hok', halike⟩ := hagain screen
  rcases hrun' : ((regenerate (snapshot.target ⟨["generated-form"]⟩) ⟨⟨["generated-form"]⟩, false⟩ :
    StateT Screen (StateM FileTree) _).run screen).run first with ⟨⟨result, other⟩, second⟩
  rw [hrun'] at hok' halike
  obtain rfl : result = .ok () := hok'
  exact ⟨other, second, rfl, halike⟩

end FormScaffold
