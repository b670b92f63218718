import FormScaffold.Proofs.Result
import FormScaffold.Proofs.Snapshot.Reloaded

/-!
# Recovered forms

A saved form is recovered from its text, whether it is valid or not, and loses nothing but blank
messages.  A form that was read from a snapshot has none, so it is recovered as it is
(`recover_textOf`).
-/

namespace FormScaffold.Snapshot

/-! ## Forms that were read -/

variable {form : Form} {snapshot : Snapshot}

theorem Field.withoutBlank_of_toField {index : Nat} {saved : Field} {field : FormScaffold.Field}
    (h : saved.toField index = .ok field) : field.withoutBlank = field := by
  rw [toField] at h
  split at h
  · exact absurd h (by simp)
  · obtain rfl := Except.ok.inj h
    by_cases hblank : Text.AllBlank saved.errorMessage
    · simp [FormScaffold.Field.withoutBlank, hblank]
    · simp [FormScaffold.Field.withoutBlank, hblank, Option.filter_some]

theorem withoutBlank_of_toFields {index : Nat} {saved : List Field}
    {fields : List FormScaffold.Field} (h : toFields index saved = .ok fields) :
    fields.map FormScaffold.Field.withoutBlank = fields := by
  induction saved generalizing index fields with
  | nil =>
    obtain rfl := Except.ok.inj h
    rfl
  | cons f fs ih =>
    obtain ⟨field, hfield, h⟩ := Except.bind_eq_ok_iff.mp h
    obtain ⟨rest, hrest, h⟩ := Except.bind_eq_ok_iff.mp h
    obtain rfl := Except.ok.inj h
    rw [List.map_cons, Field.withoutBlank_of_toField hfield, ih hrest]

/-- A form that was read from a snapshot has no blank messages. -/
theorem withoutBlank_of_toForm (h : snapshot.toForm = .ok form) : form.withoutBlank = form := by
  obtain ⟨routing, -, h⟩ := Except.bind_eq_ok_iff.mp h
  obtain ⟨fields, hfields, h⟩ := Except.bind_eq_ok_iff.mp h
  obtain ⟨buttons, -, h⟩ := Except.bind_eq_ok_iff.mp h
  obtain ⟨link, -, h⟩ := Except.bind_eq_ok_iff.mp h
  obtain ⟨theme, -, h⟩ := Except.bind_eq_ok_iff.mp h
  obtain ⟨storage, -, h⟩ := Except.bind_eq_ok_iff.mp h
  obtain rfl := Except.ok.inj h
  rw [Form.withoutBlank, withoutBlank_of_toFields hfields]

/-! ## Saving and reading -/

/-- The text that is saved with a form is read as a snapshot of this generator's version, and the
form of that snapshot is the one that was saved, without its blank messages.  A form that comes
from a snapshot is recovered as it is. -/
theorem recover_textOf (hcount : form.Countable) (hsubmit : form.submitIndex ≤ Text.word64) :
    ∃ saved, ofText (textOf form) = .ok saved ∧
      saved.generatorVersion = some FormScaffold.generatorVersion ∧
      saved.toForm = .ok form.withoutBlank ∧
      ∀ source : Snapshot, source.toForm = .ok form → saved.toForm = .ok form := by
  refine ⟨(ofForm form).stamped, (hcount.fits hsubmit).ofText_toText, rfl, toForm_ofForm form,
    fun source hsource => ?_⟩
  rw [toForm_ofForm, withoutBlank_of_toForm hsource]

/-- A form that is far from valid, with quotes, line ends and blank messages in its texts. -/
def unruly : Form :=
  { Form.named "\x22\\\n" with
    fields :=
      [ { name := "", label := "\x00\x7f\u2028", placeholder := "é😀", type := .date, rules := ",:",
          message := some " \u3000" },
        { name := "", label := "", placeholder := "", type := .text, rules := "",
          message := some "\x0b!" } ]
    submitIndex := Text.word64
    storage := some { database := "", collection := "\x22" } }

theorem recover_textOf_unruly :
    unruly.Countable ∧ unruly.submitIndex ≤ Text.word64 ∧
      ∃ saved, ofText (textOf unruly) = .ok saved ∧ saved.toForm = .ok unruly.withoutBlank ∧
        unruly.withoutBlank.fields.map (·.message) = [none, some "\x0b!"] := by
  have hcount : unruly.Countable := ⟨by decide, by decide⟩
  obtain ⟨saved, htext, -, hform, -⟩ := recover_textOf hcount le_rfl
  exact ⟨hcount, le_rfl, saved, htext, hform, by decide⟩

end FormScaffold.Snapshot
