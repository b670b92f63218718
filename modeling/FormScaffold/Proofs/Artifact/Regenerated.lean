import FormScaffold.Proofs.Artifact.Braces
import FormScaffold.Proofs.Artifact.Independent
import FormScaffold.Proofs.Constraint.Expression
import FormScaffold.Proofs.Snapshot.Reloaded

/-!
# Regenerating from the snapshot

A form that is generated is generated again from its own snapshot.  What blank messages stand for
is all that can change: the snapshot drops them, so that the checks of their fields get messages of
their own (`Form.regenerate`).
-/

namespace FormScaffold

/-! ## Fields -/

namespace Field

theorem constraints_withoutBlank (field : Field) :
    field.withoutBlank.constraints =
      field.constraints.map (Constraint.withOwn field.withoutBlank.message) :=
  field.constraints_own field.withoutBlank.message

/-- The constraints stay the same exactly when there are none or the message is not blank. -/
theorem constraints_withoutBlank_iff (field : Field) :
    field.withoutBlank.constraints = field.constraints ↔
      ∀ m, field.message = some m → Text.AllBlank m → field.constraints = [] := by
  constructor
  · intro heq m hm hblank
    refine List.eq_nil_iff_forall_not_mem.mpr fun c hc => ?_
    -- a constraint that stays would have both the blank message and that of its kind
    have hown : c.message = m := by
      rw [message_of_mem_constraints hc, hm, Option.getD_some]
    have hdefault : c.message = c.kind.message c.length := by
      rw [← heq] at hc
      rw [message_of_mem_constraints hc, field.withoutBlank_message_of_allBlank hm hblank,
        Option.getD_none]
    rw [← hown, hdefault] at hblank
    exact c.kind.not_allBlank_message c.length hblank
  · intro h
    rcases field.withoutBlank_eq_or with heq | ⟨m, hm, hblank⟩
    · rw [heq]
    · rw [constraints_withoutBlank, h m hm hblank, List.map_nil]

/-- The line of the field in the schema. -/
def entryLine (field : Field) : String :=
  Code.indented 1 (field.name ++ ": " ++ Constraint.schemaExpression field.constraints ++ ",")

theorem entryLine_ne_empty (field : Field) : field.entryLine ≠ "" := by
  intro h
  have htoList := congrArg String.toList h
  rw [entryLine, Code.toList_indented] at htoList
  exact absurd htoList (by simp)

/-- The line changes with the constraints. -/
theorem constraints_eq_of_entryLine_eq {field : Field}
    (h : field.withoutBlank.entryLine = field.entryLine) :
    field.withoutBlank.constraints = field.constraints := by
  have hname : field.withoutBlank.name = field.name := rfl
  rw [constraints_withoutBlank]
  rw [entryLine, entryLine, hname, constraints_withoutBlank, Code.indented, Code.indented] at h
  simp only [String.append_assoc, String.append_right_inj] at h
  exact Constraint.schemaExpression_withOwn_inj (fun c hc => wellFormed_of_mem_constraints hc) h

end Field

namespace Form

variable {form : Form}

/-! ## What blank messages do not touch -/

theorem fieldViolation?_withoutBlank (index : Nat) (seen : List String) (fields : List Field) :
    fieldViolation? index seen (fields.map Field.withoutBlank) =
      fieldViolation? index seen fields := by
  induction fields generalizing index seen with
  | nil => rfl
  | cons f fs ih =>
    rw [List.map_cons, fieldViolation?, fieldViolation?, ih]
    rfl

theorem violation?_withoutBlank (form : Form) :
    form.withoutBlank.violation? = form.violation? := by
  have hviolations : form.withoutBlank.violations = form.violations := by
    rw [violations, violations, withoutBlank, fieldViolation?_withoutBlank]
  rw [violation?, violation?, hviolations]

theorem Valid.withoutBlank (h : form.Valid) : form.withoutBlank.Valid := by
  rw [← violation?_eq_none_iff, violation?_withoutBlank]
  exact form.violation?_eq_none_iff.mpr h

theorem generate_withoutBlank {artifacts : List Artifact} (h : form.generate = .ok artifacts) :
    form.withoutBlank.generate = .ok form.withoutBlank.artifacts := by
  rw [generate_eq] at h ⊢
  have hnames : form.withoutBlank.expectedStorageNames .snapshot =
      form.expectedStorageNames .snapshot := rfl
  rw [violation?_withoutBlank, hnames]
  split at h
  · exact absurd h (by simp)
  · split at h
    · exact absurd h (by simp)
    · rfl

/-- Messages are not shown before a check fails. -/
theorem shown_withoutBlank (form : Form) : form.withoutBlank.shown = form.shown := by
  rw [shown, shown, withoutBlank, List.map_map]
  rfl

theorem component_withoutBlank (form : Form) : form.withoutBlank.component = form.component :=
  component_eq_of_shown_eq form.shown_withoutBlank

theorem contents_withoutBlank (form : Form) {role : Role} (hschema : role ≠ .schema)
    (hsnapshot : role ≠ .snapshot) : form.withoutBlank.contents role = form.contents role := by
  cases role with
  | component => exact congrArg Code.render form.component_withoutBlank
  | schema => exact absurd rfl hschema
  | serverAction => rfl
  | apiRoute => rfl
  | databaseClient => rfl
  | snapshot => exact absurd rfl hsnapshot

/-! ## The schema -/

/-- The lines of the schema before its entries. -/
def schemaHead (form : Form) : List String :=
  [(Import.named ["z"] "zod").line,
    "export const " ++ form.naming.schemaSymbol ++ " = z.object(\x7b"]

/-- The lines of the schema after its entries. -/
def schemaTail (form : Form) : List String :=
  ["\x7d);",
    "export type " ++ form.naming.valuesSymbol ++ " = " ++ form.naming.valuesType ++ ";"]

theorem map_indented_lines_schema (form : Form) :
    (form.schema.lines 0).map (fun l => Code.indented l.1 l.2) =
      form.schemaHead ++ (form.fields.map Field.entryLine ++ form.schemaTail) := by
  have hentries : ((Code.seq (form.fields.map Field.schemaEntry)).lines 1).map
      (fun l => Code.indented l.1 l.2) = form.fields.map Field.entryLine := by
    rw [Code.lines_seq, List.flatMap_map, List.map_flatMap]
    exact (List.map_eq_flatMap).symm
  simp [schema, Import.code, schemaHead, schemaTail, ← hentries]

/-- The text of the schema has the lines of its entries. -/
theorem map_entryLine_eq_of_render_eq (h : form.Valid)
    (heq : form.withoutBlank.schema.render = form.schema.render) :
    (form.fields.map Field.withoutBlank).map Field.entryLine = form.fields.map Field.entryLine := by
  have hlines : ∀ {g : Form}, g.Valid → (Text.sourceLines g.schema.render).filter (· ≠ "") =
      g.schemaHead.filter (· ≠ "") ++ (g.fields.map Field.entryLine ++ g.schemaTail.filter (· ≠ "")) := by
    intro g hg
    have hentries : (g.fields.map Field.entryLine).filter (· ≠ "") = g.fields.map Field.entryLine := by
      refine List.filter_eq_self.mpr fun l hl => ?_
      obtain ⟨f, -, rfl⟩ := List.mem_map.mp hl
      exact decide_eq_true f.entryLine_ne_empty
    rw [Code.sourceLines_render hg.turns_schema.2, Code.filter_toLines, map_indented_lines_schema,
      List.filter_append, List.filter_append, hentries]
  have hequal := (hlines h.withoutBlank).symm.trans ((congrArg (fun text =>
    (Text.sourceLines text).filter (· ≠ "")) heq).trans (hlines h))
  have hhead : form.withoutBlank.schemaHead = form.schemaHead := rfl
  have htail : form.withoutBlank.schemaTail = form.schemaTail := rfl
  rw [hhead, htail, List.append_right_inj, List.append_left_inj] at hequal
  exact hequal

/-- The schema stays the same exactly when no field with a blank message has a check. -/
theorem render_schema_withoutBlank_iff (h : form.Valid) :
    form.withoutBlank.schema.render = form.schema.render ↔
      ∀ f ∈ form.fields, ∀ m, f.message = some m → Text.AllBlank m → f.constraints = [] := by
  constructor
  · intro heq f hf m hm hblank
    have hlines := map_entryLine_eq_of_render_eq h heq
    rw [List.map_map] at hlines
    have hentry : f.withoutBlank.entryLine = f.entryLine := List.map_inj_left.mp hlines f hf
    exact f.constraints_withoutBlank_iff.mp (Field.constraints_eq_of_entryLine_eq hentry) m hm hblank
  · intro hblank
    have hfields : form.withoutBlank.fields.map Field.schemaEntry =
        form.fields.map Field.schemaEntry := by
      rw [withoutBlank, List.map_map]
      refine List.map_congr_left fun f hf => ?_
      show f.withoutBlank.schemaEntry = f.schemaEntry
      rw [Field.schemaEntry, Field.schemaEntry,
        f.constraints_withoutBlank_iff.mpr fun m => hblank f hf m]
      rfl
    rw [schema, hfields]
    rfl

/-! ## The snapshot -/

theorem Valid.ofText_textOf (h : form.Valid) (hcount : form.Countable) :
    Snapshot.ofText (Snapshot.textOf form) = .ok (Snapshot.ofForm form).stamped :=
  (hcount.fits (h.submitIndex.2.trans hcount.buttons)).ofText_toText

theorem ofForm_withoutBlank_iff (form : Form) :
    (Snapshot.ofForm form.withoutBlank).stamped = (Snapshot.ofForm form).stamped ↔
      ∀ f ∈ form.fields, ∀ m, f.message = some m → Text.AllBlank m → m = "" := by
  constructor
  · intro heq f hf m hm hblank
    have hfields := congrArg Snapshot.inputFields heq
    have hlist : (form.fields.map Field.withoutBlank).map Snapshot.Field.ofField =
        form.fields.map Snapshot.Field.ofField := hfields
    rw [List.map_map] at hlist
    have hfield := List.map_inj_left.mp hlist f hf
    have hmessage : f.withoutBlank.message.getD "" = f.message.getD "" :=
      congrArg Snapshot.Field.errorMessage hfield
    rw [f.withoutBlank_message_of_allBlank hm hblank, hm] at hmessage
    exact hmessage.symm
  · intro hempty
    have hfields : form.withoutBlank.fields.map Snapshot.Field.ofField =
        form.fields.map Snapshot.Field.ofField := by
      rw [withoutBlank, List.map_map]
      refine List.map_congr_left fun f hf => ?_
      have hmessage : f.withoutBlank.message.getD "" = f.message.getD "" := by
        rcases f.withoutBlank_eq_or with heq | ⟨m, hm, hblank⟩
        · rw [heq]
        · rw [f.withoutBlank_message_of_allBlank hm hblank, hm, hempty f hf m hm hblank]
          rfl
      exact congrArg (fun errorMessage => { Snapshot.Field.ofField f with errorMessage }) hmessage
    have hlength : form.withoutBlank.fields.length = form.fields.length := List.length_map _
    rw [Snapshot.ofForm, Snapshot.ofForm, hfields, hlength]
    rfl

/-- The snapshot stays the same exactly when every blank message is empty. -/
theorem Valid.textOf_withoutBlank_iff (h : form.Valid) (hcount : form.Countable) :
    Snapshot.textOf form.withoutBlank = Snapshot.textOf form ↔
      ∀ f ∈ form.fields, ∀ m, f.message = some m → Text.AllBlank m → m = "" := by
  rw [← form.ofForm_withoutBlank_iff]
  constructor
  · intro heq
    have hread := congrArg Snapshot.ofText heq
    rw [h.withoutBlank.ofText_textOf hcount.withoutBlank, h.ofText_textOf hcount] at hread
    exact Except.ok.inj hread
  · intro heq
    rw [Snapshot.textOf, Snapshot.textOf, heq]

/-! ## All artifacts -/

theorem filter_snapshot_artifacts (form : Form) :
    form.artifacts.filter (fun a => a.role = .snapshot) = [form.artifact .snapshot] :=
  filter_artifacts form.snapshot_mem_roles

theorem artifact_withoutBlank_iff (form : Form) (role : Role) :
    form.withoutBlank.artifact role = form.artifact role ↔
      form.withoutBlank.contents role = form.contents role := by
  constructor
  · intro heq
    exact congrArg Artifact.contents heq
  · intro heq
    rw [artifact, artifact, heq]
    rfl

/-- The artifacts stay the same exactly when the schema and the snapshot do. -/
theorem artifacts_withoutBlank_iff (form : Form) :
    form.withoutBlank.artifacts = form.artifacts ↔
      form.withoutBlank.schema.render = form.schema.render ∧
        Snapshot.textOf form.withoutBlank = Snapshot.textOf form := by
  have hroles : form.withoutBlank.roles = form.roles := rfl
  rw [artifacts, artifacts, hroles, List.map_inj_left]
  constructor
  · intro h
    exact ⟨(form.artifact_withoutBlank_iff .schema).mp (h .schema (by simp [roles])),
      (form.artifact_withoutBlank_iff .snapshot).mp (h .snapshot form.snapshot_mem_roles)⟩
  · rintro ⟨hschema, hsnapshot⟩ role -
    refine (form.artifact_withoutBlank_iff role).mpr ?_
    by_cases hs : role = .schema
    · rw [hs]
      exact hschema
    · by_cases ht : role = .snapshot
      · rw [ht]
        exact hsnapshot
      · exact form.contents_withoutBlank hs ht

/-- A generated form is read back from its snapshot and generated again.  Only the schema and the
snapshot can differ, and they do unless every blank message is empty and belongs to a field without
checks. -/
theorem regenerate (hcount : form.Countable) {artifacts : List Artifact}
    (h : form.generate = .ok artifacts) :
    ∃ artifact snapshot reloaded regenerated,
      artifacts.filter (fun a => a.role = .snapshot) = [artifact] ∧
      Snapshot.ofText artifact.contents = .ok snapshot ∧
      snapshot.toForm = .ok reloaded ∧
      reloaded.generate = .ok regenerated ∧
      List.Forall₂ (fun a b => a.role = b.role ∧ a.path = b.path ∧
        (a.role ≠ .schema → a.role ≠ .snapshot → a.contents = b.contents)) artifacts regenerated ∧
      (regenerated = artifacts ↔ ∀ f ∈ form.fields, ∀ m, f.message = some m → Text.AllBlank m →
        m = "" ∧ f.constraints = []) := by
  obtain ⟨hvalid, rfl⟩ := valid_of_generate h
  refine ⟨form.artifact .snapshot, (Snapshot.ofForm form).stamped, form.withoutBlank,
    form.withoutBlank.artifacts, form.filter_snapshot_artifacts, hvalid.ofText_textOf hcount,
    Snapshot.toForm_ofForm form, generate_withoutBlank h, ?_, ?_⟩
  · have hroles : form.withoutBlank.roles = form.roles := rfl
    rw [artifacts, artifacts, hroles, List.forall₂_map_left_iff, List.forall₂_map_right_iff,
      List.forall₂_same]
    exact fun role _ => ⟨rfl, rfl, fun hschema hsnapshot =>
      (form.contents_withoutBlank hschema hsnapshot).symm⟩
  · rw [artifacts_withoutBlank_iff, render_schema_withoutBlank_iff hvalid,
      hvalid.textOf_withoutBlank_iff hcount]
    constructor
    · rintro ⟨hschema, hsnapshot⟩ f hf m hm hblank
      exact ⟨hsnapshot f hf m hm hblank, hschema f hf m hm hblank⟩
    · intro hboth
      exact ⟨fun f hf m hm hblank => (hboth f hf m hm hblank).2,
        fun f hf m hm hblank => (hboth f hf m hm hblank).1⟩

/-- A form with a message of its own for a checked field. -/
def ownMessage : Form :=
  { named "contact" with
    fields :=
      [{ name := "email", label := "Email", placeholder := "", type := .email, rules := "required",
         message := some "Please enter an address." }]
    buttons := [{ text := "Send", variant := .default }] }

theorem regenerate_ownMessage :
    ownMessage.Countable ∧ ownMessage.generate = .ok ownMessage.artifacts ∧
      ∃ snapshot, Snapshot.ofText (ownMessage.contents .snapshot) = .ok snapshot ∧
        ∃ reloaded, snapshot.toForm = .ok reloaded ∧
          reloaded.generate = .ok ownMessage.artifacts := by
  have hcount : ownMessage.Countable := ⟨by decide, by decide⟩
  have hgenerate : ownMessage.generate = .ok ownMessage.artifacts :=
    generate_of_valid (by decide) (by decide)
  obtain ⟨artifact, snapshot, reloaded, regenerated, hfilter, htext, hform, hregenerated, -, hiff⟩ :=
    regenerate hcount hgenerate
  obtain rfl : ownMessage.artifact .snapshot = artifact := by
    rw [filter_snapshot_artifacts] at hfilter
    exact List.head_eq_of_cons_eq hfilter
  have hsame : regenerated = ownMessage.artifacts := by
    refine hiff.mpr fun f hf m hm hblank => ?_
    rw [List.mem_singleton.mp hf] at hm
    rw [← Option.some.inj hm] at hblank
    exact absurd hblank (by decide)
  exact ⟨hcount, hgenerate, snapshot, htext, reloaded, hform, hsame ▸ hregenerated⟩

/-- The same form with a message of one space, which the snapshot drops. -/
def spaceMessage : Form :=
  { named "contact" with
    fields :=
      [{ name := "email", label := "Email", placeholder := "", type := .email, rules := "required",
         message := some " " }]
    buttons := [{ text := "Send", variant := .default }] }

theorem spaceMessage_not_regenerated :
    spaceMessage.generate = .ok spaceMessage.artifacts ∧
      ∃ snapshot, Snapshot.ofText (spaceMessage.contents .snapshot) = .ok snapshot ∧
        ∃ reloaded, snapshot.toForm = .ok reloaded ∧
          reloaded.generate ≠ .ok spaceMessage.artifacts := by
  have hgenerate : spaceMessage.generate = .ok spaceMessage.artifacts :=
    generate_of_valid (by decide) (by decide)
  have hvalid : spaceMessage.Valid := (valid_of_generate hgenerate).1
  refine ⟨hgenerate, (Snapshot.ofForm spaceMessage).stamped,
    hvalid.ofText_textOf ⟨by decide, by decide⟩, spaceMessage.withoutBlank,
    Snapshot.toForm_ofForm spaceMessage, fun hsame => ?_⟩
  rw [generate_withoutBlank hgenerate] at hsame
  have hschema := ((artifacts_withoutBlank_iff _).mp (Except.ok.inj hsame)).1
  have hnone := (render_schema_withoutBlank_iff hvalid).mp hschema _ List.mem_cons_self " " rfl
    (by decide)
  exact absurd hnone (by decide)

end Form

end FormScaffold
