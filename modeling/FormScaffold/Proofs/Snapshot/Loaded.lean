import FormScaffold.Proofs.Artifact.Regenerated
import FormScaffold.Proofs.Artifact.Rewritten
import FormScaffold.Proofs.Snapshot.Recovered
import FormScaffold.Snapshot.Load

/-!
# Forms that are loaded

Loading looks at a tree of files and does nothing to it (`run_load`).  A file with the text of a form
gives the form without its blank messages (`Snapshot.run_load_of_read`), and so does the snapshot
among the artifacts of a form that has been written (`run_load_of_inPlace`).
-/

namespace FormScaffold

open FileTree

variable {form : Form} {tree : FileTree}

/-! ## Reading -/

theorem fromUTF8?_toUTF8 (s : String) : String.fromUTF8? s.toUTF8 = some s := dif_pos s.isValidUTF8

theorem run_read (path : Path) (tree : FileTree) :
    (FileAccess.read path : StateM FileTree _).run tree = (tree.read path, tree) := rfl

theorem run_readText (path : Path) (tree : FileTree) :
    (FileAccess.readText path : StateM FileTree _).run tree =
      (match tree.read path with
        | .error fault => .error fault
        | .ok bytes =>
          match String.fromUTF8? bytes with
          | some text => .ok text
          | none => .error .notText, tree) := by
  rw [FileAccess.readText, run_bind, run_read]
  cases tree.read path with
  | error fault => rfl
  | ok bytes =>
    dsimp only
    cases String.fromUTF8? bytes <;> rfl

/-- Loading looks at the tree, and does nothing to it. -/
theorem run_load (path : Path) (tree : FileTree) :
    ∃ loaded, (Snapshot.load path : StateM FileTree _).run tree = (loaded, tree) := by
  rw [Snapshot.load, run_bind, run_readText]
  dsimp only
  split
  · exact ⟨_, rfl⟩
  · exact ⟨_, rfl⟩

/-! ## Forms of files -/

namespace Snapshot

/-- A form that is loaded is that of a snapshot. -/
theorem exists_toForm_of_formOfFileText {path : Path} {text : String} {loaded : LoadedForm}
    (h : formOfFileText path text = .ok loaded) :
    ∃ snapshot : Snapshot, snapshot.toForm = .ok loaded.form := by
  obtain ⟨snapshot, -, h⟩ := Except.bind_eq_ok_iff.mp h
  obtain ⟨form, hform, h⟩ := Except.bind_eq_ok_iff.mp h
  obtain rfl := Except.ok.inj h
  exact ⟨snapshot, Except.mapError_eq_ok_iff.mp hform⟩

/-- A form that is loaded has no blank messages. -/
theorem withoutBlank_of_load {path : Path} {loaded : LoadedForm}
    (h : (load path : StateM FileTree _).run tree = (.ok loaded, tree)) :
    loaded.form.withoutBlank = loaded.form := by
  rw [load, run_bind, run_readText] at h
  dsimp only at h
  split at h
  · exact absurd (Prod.mk.inj h).1 (by simp)
  · obtain ⟨snapshot, hsnapshot⟩ := exists_toForm_of_formOfFileText (Prod.mk.inj h).1
    exact withoutBlank_of_toForm hsnapshot

/-- A form is loaded from a file with its text. -/
theorem run_load_of_read (hvalid : form.Valid) (hcount : form.Countable) {path : Path}
    (hpath : isYamlPath path = false) (hread : tree.read path = .ok (textOf form).toUTF8) :
    (load path : StateM FileTree _).run tree =
      (.ok ⟨form.withoutBlank, some FormScaffold.generatorVersion⟩, tree) := by
  have htext : ofFileText path (textOf form) = .ok (ofForm form).stamped := by
    rw [ofFileText, hpath, hvalid.ofText_textOf hcount]
    rfl
  rw [load, run_bind, run_readText, hread]
  dsimp only
  rw [fromUTF8?_toUTF8]
  dsimp only
  rw [run_pure, formOfFileText, htext, Except.ok_bind, toForm_ofForm]
  rfl

end Snapshot

/-- The snapshot of a form is not taken for another format. -/
theorem Form.isYamlPath_target (h : isIdentifier form.naming.form = true) (directory : Path) :
    Snapshot.isYamlPath ((form.artifact .snapshot).target directory) = false := by
  rw [Snapshot.isYamlPath, Form.extension?_target h]
  decide

/-- A form is loaded from the snapshot among its artifacts. -/
theorem run_load_of_inPlace (hvalid : form.Valid) (hcount : form.Countable) {directory : Path}
    (hplace : InPlace (form.artifacts.map fun a => a.planned directory) tree) :
    (Snapshot.load ((form.artifact .snapshot).target directory) : StateM FileTree _).run tree =
      (.ok ⟨form.withoutBlank, some generatorVersion⟩, tree) := by
  have hread := hplace.read_target (List.mem_map_of_mem form.snapshot_mem_roles)
  exact Snapshot.run_load_of_read hvalid hcount (Form.isYamlPath_target hvalid.name directory) hread

/-- A tree with a saved form. -/
def savedContact : FileTree where
  entries := [(["contactConfig.json"], .file (Snapshot.textOf Form.contact).toUTF8)]
  current := []

theorem run_load_contact :
    (Snapshot.load ⟨["contactConfig.json"]⟩ : StateM FileTree _).run savedContact =
      (.ok ⟨Form.contact, some generatorVersion⟩, savedContact) := by
  have hvalid : Form.contact.Valid := Form.contact.violation?_eq_none_iff.mp (by decide)
  have hread : savedContact.read ⟨["contactConfig.json"]⟩ =
      .ok (Snapshot.textOf Form.contact).toUTF8 :=
    read_eq_ok_iff.mpr ⟨["contactConfig.json"], by decide +kernel, rfl⟩
  exact Snapshot.run_load_of_read hvalid ⟨by decide, by decide⟩ (by decide) hread

end FormScaffold
