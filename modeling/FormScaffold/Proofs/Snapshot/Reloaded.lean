import FormScaffold.Proofs.Snapshot.Json

/-!
# Forms that come back from their snapshots

A form comes back from its snapshot with all its choices, valid or not.  Only blank messages are
gone, since a snapshot keeps a blank text for a field without a message (`toForm_ofForm`).
-/

namespace FormScaffold

/-! ## Names of choices -/

theorem InputType.ofName?_name (type : InputType) : ofName? type.name = some type := by
  cases type <;> rfl

theorem ButtonVariant.ofName?_name (variant : ButtonVariant) :
    ofName? variant.name = some variant := by
  cases variant <;> rfl

theorem Layout.ofName_name (layout : Layout) : ofName layout.name = layout := by
  cases layout <;> rfl

theorem HorizontalAlign.ofName?_name (align : HorizontalAlign) :
    ofName? align.name = some align := by
  cases align <;> rfl

theorem VerticalAlign.ofName?_name (align : VerticalAlign) : ofName? align.name = some align := by
  cases align <;> rfl

theorem Routing.ofName?_name (routing : Routing) : ofName? routing.name = some routing := by
  cases routing <;> rfl

/-! ## What comes back -/

/-- The field, without its message if that is blank. -/
def Field.withoutBlank (field : Field) : Field :=
  { field with message := field.message.filter fun m => !decide (Text.AllBlank m) }

/-- The form without blank messages. -/
def Form.withoutBlank (form : Form) : Form :=
  { form with fields := form.fields.map Field.withoutBlank }

/-- Only a field with a blank message changes. -/
theorem Field.withoutBlank_eq_or (field : Field) :
    field.withoutBlank = field ∨ ∃ m, field.message = some m ∧ Text.AllBlank m := by
  obtain ⟨name, label, placeholder, type, rules, message⟩ := field
  cases message with
  | none => exact .inl rfl
  | some m =>
    by_cases hblank : Text.AllBlank m
    · exact .inr ⟨m, rfl, hblank⟩
    · left
      rw [withoutBlank, Option.filter_some, if_pos (by simpa using hblank)]

theorem Field.withoutBlank_message_of_allBlank (field : Field) {m : String}
    (hm : field.message = some m) (hblank : Text.AllBlank m) :
    field.withoutBlank.message = none := by
  simp [withoutBlank, hm, Option.filter_some, hblank]

/-! ## Counts -/

/-- The lists of the form are no longer than a count of 64 bits can say. -/
structure Form.Countable (form : Form) : Prop where
  fields : form.fields.length ≤ Text.word64
  buttons : form.buttons.length ≤ Text.word64

theorem Form.Countable.withoutBlank {form : Form} (h : form.Countable) :
    form.withoutBlank.Countable where
  fields := by
    rw [Form.withoutBlank, List.length_map]
    exact h.fields
  buttons := h.buttons

theorem Form.Countable.fits {form : Form} (h : form.Countable)
    (hsubmit : form.submitIndex ≤ Text.word64) : (Snapshot.ofForm form).stamped.Fits where
  inputCount n hn := by
    rw [← Option.some.inj hn]
    exact h.fields
  buttonCount n hn := by
    rw [← Option.some.inj hn]
    exact h.buttons
  submitButtonIndex := hsubmit

namespace Snapshot

theorem Field.toField_ofField (index : Nat) (field : FormScaffold.Field) :
    (Field.ofField field).toField index = .ok field.withoutBlank := by
  have hmessage : (if Text.AllBlank (field.message.getD "") then none
      else some (field.message.getD "")) =
        field.message.filter fun m => !decide (Text.AllBlank m) := by
    cases field.message with
    | none => rfl
    | some m =>
      by_cases hm : Text.AllBlank m
      · simp [hm, Option.filter_some]
      · simp [hm, Option.filter_some]
  rw [Field.toField, Field.ofField, InputType.ofName?_name]
  exact congrArg (fun message => Except.ok { field with message }) hmessage

theorem toFields_ofField (index : Nat) (fields : List FormScaffold.Field) :
    toFields index (fields.map Field.ofField) = .ok (fields.map FormScaffold.Field.withoutBlank) := by
  induction fields generalizing index with
  | nil => rfl
  | cons f fs ih =>
    rw [List.map_cons, toFields, Field.toField_ofField, ih]
    rfl

theorem toButtons_ofButton (index : Nat) (buttons : List FormScaffold.Button) :
    toButtons index (buttons.map Button.ofButton) = .ok buttons := by
  induction buttons generalizing index with
  | nil => rfl
  | cons b bs ih =>
    rw [List.map_cons, toButtons, Button.toButton, Button.ofButton, ButtonVariant.ofName?_name, ih]
    rfl

theorem toLink_ofForm (form : Form) : (ofForm form).stamped.toLink = .ok form.link := by
  cases h : form.link with
  | none => simp [toLink, stamped, ofForm, h]
  | some link =>
    simp only [toLink, stamped, ofForm, h]
    rfl

theorem toTheme_ofForm (form : Form) : (ofForm form).stamped.toTheme = .ok form.theme := by
  cases h : form.theme with
  | none => simp [toTheme, stamped, ofForm, h]
  | some theme =>
    simp only [toTheme, stamped, ofForm, h]
    rfl

theorem toStorage_ofForm (form : Form) : (ofForm form).stamped.toStorage = .ok form.storage := by
  cases h : form.storage with
  | none => simp [toStorage, stamped, ofForm, h]
  | some storage =>
    simp only [toStorage, stamped, ofForm, h]
    rfl

/-- A form comes back without blank messages. -/
theorem toForm_ofForm (form : Form) : (ofForm form).stamped.toForm = .ok form.withoutBlank := by
  have hrouting : (ofForm form).stamped.toRouting = .ok form.routing := by
    have hname : (ofForm form).stamped.routerType = form.routing.name := rfl
    rw [toRouting, hname, Routing.ofName?_name]
  have hhorizontal : (form.horizontal.map (·.name)).bind HorizontalAlign.ofName? =
      form.horizontal := by
    cases form.horizontal with
    | none => rfl
    | some align => exact HorizontalAlign.ofName?_name align
  have hvertical : (form.vertical.map (·.name)).bind VerticalAlign.ofName? = form.vertical := by
    cases form.vertical with
    | none => rfl
    | some align => exact VerticalAlign.ofName?_name align
  have hfields : toFields 0 (ofForm form).stamped.inputFields =
      .ok (form.fields.map FormScaffold.Field.withoutBlank) := toFields_ofField 0 form.fields
  have hbuttons : toButtons 0 (ofForm form).stamped.buttons = .ok form.buttons :=
    toButtons_ofButton 0 form.buttons
  rw [toForm, hrouting, hfields, hbuttons, toLink_ofForm, toTheme_ofForm, toStorage_ofForm]
  show Except.ok _ = Except.ok _
  refine congrArg Except.ok ?_
  simp only [stamped, ofForm, hhorizontal, hvertical, Layout.ofName_name]
  rfl

end Snapshot

end FormScaffold
