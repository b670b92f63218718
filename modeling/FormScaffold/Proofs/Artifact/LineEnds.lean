import FormScaffold.Proofs.Artifact.Modules
import FormScaffold.Proofs.Code.LineEnds

/-!
# Line ends in the artifacts

No text of a form puts a line feed into a line of its source, so that the number of lines is that
of the form's parts, whatever they are called.  A carriage return gets into a line only through a
text that stands in the markup as it is (`Form.lineEnds_of_generate`).
-/

namespace FormScaffold

/-! ## Carriage returns -/

/-- A piece with a carriage return in one of its lines. -/
def Code.Returns (code : Code) : Prop := ∃ t ∈ code.texts, '\r' ∈ t.toList

namespace Code

@[simp] theorem returns_empty : ¬empty.Returns := by simp [Returns]

@[simp] theorem returns_line {text : String} : (line text).Returns ↔ '\r' ∈ text.toList := by
  simp [Returns]

@[simp] theorem returns_gap : ¬gap.Returns := by simp [Returns]

@[simp] theorem returns_indent {inner : Code} : (indent inner).Returns ↔ inner.Returns := by
  simp [Returns]

@[simp] theorem returns_seq {parts : List Code} :
    (seq parts).Returns ↔ ∃ part ∈ parts, part.Returns := by
  simp only [Returns, texts_seq, List.mem_flatMap]
  exact ⟨fun ⟨t, ⟨part, hpart, ht⟩, h⟩ => ⟨part, hpart, t, ht, h⟩,
    fun ⟨part, hpart, t, ht, h⟩ => ⟨t, ⟨part, hpart, ht⟩, h⟩⟩

@[simp] theorem returns_block {opening closing : String} {body : Code} :
    (block opening body closing).Returns ↔
      '\r' ∈ opening.toList ∨ body.Returns ∨ '\r' ∈ closing.toList := by
  simp [block]

@[simp] theorem returns_when {condition : Bool} {piece : Code} :
    (when condition piece).Returns ↔ condition = true ∧ piece.Returns := by
  cases condition <;> simp [when]

end Code

namespace Quoted

@[simp] theorem return_notMem_literal (s : String) : '\r' ∉ (literal s).toList :=
  (lineEnd_notMem_literal s).2

/-- The text, if it is put into an attribute as it is. -/
def bareAttribute (s : String) : List String := if s.toList.any endsAttribute then [] else [s]

/-- The text, if it is put between tags as it is. -/
def bareChild (s : String) : List String := if s.toList.any endsChildText then [] else [s]

theorem return_mem_attributeValue {s : String} :
    '\r' ∈ (attributeValue s).toList ↔ ∃ t ∈ bareAttribute s, '\r' ∈ t.toList := by
  rw [attributeValue, bareAttribute]
  split <;> simp [braced]

theorem return_mem_childText {s : String} :
    '\r' ∈ (childText s).toList ↔ ∃ t ∈ bareChild s, '\r' ∈ t.toList := by
  rw [childText, bareChild]
  split <;> simp [braced]

end Quoted

theorem return_notMem_of_isIdentifier {s : String} (h : isIdentifier s = true) :
    '\r' ∉ s.toList := fun hc => absurd (continuesIdentifier_of_mem h _ hc) (by decide)

/-! ## The parts of the page -/

/-- The texts of a field that stand in its markup as they are. -/
def Field.bareTexts (field : Field) : List String :=
  Quoted.bareChild field.label ++ Quoted.bareAttribute field.placeholder

theorem Field.returns_markup {field : Field} (h : isIdentifier field.name = true) :
    field.markup.Returns ↔ ∃ s ∈ field.bareTexts, '\r' ∈ s.toList := by
  have hname := return_notMem_of_isIdentifier h
  have hcontrol : '\r' ∈ field.control.toList ↔
      ∃ s ∈ Quoted.bareAttribute field.placeholder, '\r' ∈ s.toList := by
    rw [control, ← Quoted.return_mem_attributeValue]
    cases field.type <;> simp [Quoted.braced, InputType.name]
  simp only [bareTexts, List.mem_append, or_and_right, exists_or, ← hcontrol,
    ← Quoted.return_mem_childText]
  simp [markup, Quoted.braced, hname]

/-- The text of a button, if it stands in its markup as it is: the one that shows that a
submission is under way is always a literal. -/
def Button.bareTexts (button : Button) (submits loadingState : Bool) : List String :=
  if submits && loadingState then [] else Quoted.bareChild button.text

theorem Button.returns_markup (button : Button) (submits loadingState : Bool) :
    (button.markup submits loadingState).Returns ↔
      ∃ s ∈ button.bareTexts submits loadingState, '\r' ∈ s.toList := by
  have hvariant : '\r' ∉ button.variant.name.toList := by cases button.variant <;> decide
  have htype : '\r' ∉ (if submits then "submit" else "button").toList := by
    cases submits <;> decide
  rw [markup, bareTexts]
  split
  · simp [Quoted.braced, hvariant, htype]
  · rw [← Quoted.return_mem_childText]
    simp [hvariant, htype]

def Link.bareTexts (link : Link) : List String :=
  Quoted.bareAttribute link.target ++ Quoted.bareChild link.text

theorem Link.returns_markup (link : Link) :
    link.markup.Returns ↔ ∃ s ∈ link.bareTexts, '\r' ∈ s.toList := by
  simp only [bareTexts, List.mem_append, or_and_right, exists_or, ← Quoted.return_mem_childText,
    ← Quoted.return_mem_attributeValue]
  simp [markup]

/-- A layout puts every part into the page and adds no carriage return. -/
theorem Parts.returns_arrange (parts : Parts)
    (htitle : '\r' ∉ (Quoted.childText parts.title).toList) (layout : Layout) :
    (parts.arrange layout).Returns ↔
      (∃ f ∈ parts.fields, f.Returns) ∨ (∃ b ∈ parts.buttons, b.Returns) ∨
        ∃ l ∈ parts.link, l.Returns := by
  have hactions : (∃ a ∈ parts.actions, a.Returns) ↔
      (∃ b ∈ parts.buttons, b.Returns) ∨ ∃ l ∈ parts.link, l.Returns := by
    cases h : parts.link <;> simp [actions, h, or_and_right, exists_or]
  rw [← hactions]
  cases layout with
  | stacked => simp [arrange, or_and_right, exists_or]
  | card => simp [arrange, cardHeader, htitle, cardDescription]
  | inline => simp [arrange, or_and_right, exists_or]

/-! ## Parts without free texts -/

theorem Import.return_notMem_named {names : List String} {source : String}
    (hnames : ∀ n ∈ names, '\r' ∉ n.toList) (hsource : '\r' ∉ source.toList) :
    '\r' ∉ (named names source).line.toList := by
  have hlist : '\r' ∉ (nameList names).toList := notMem_nameList (by decide) hnames
  simp [line, hlist, hsource]

theorem Import.return_notMem_default {name source : String} (hname : '\r' ∉ name.toList)
    (hsource : '\r' ∉ source.toList) : '\r' ∉ (default name source).line.toList := by
  simp [line, hname, hsource]

namespace Submission

variable (submission : Submission) {names : Naming}

theorem not_returns_stateHooks : ¬submission.stateHooks.Returns := by
  simp [stateHooks]

theorem not_returns_handler (h : isIdentifier names.form = true) :
    ¬(submission.handler names).Returns := by
  have haction : '\r' ∉ names.actionSymbol.toList :=
    return_notMem_of_isIdentifier (isIdentifier_append h (by decide))
  have hattempt : ¬(submission.attempt names).Returns := by
    cases hs : submission.strategy <;> simp [attempt, hs, checkResult, onSuccess, haction]
  have honError : ¬submission.onError.Returns := by
    simp [onError]
  cases hl : submission.loadingState <;> simp [handler, hl, hattempt, honError]

end Submission

namespace Constraint

theorem return_notMem_method (c : Constraint) : '\r' ∉ c.method.toList := by
  have hdecimal (n : Nat) : '\r' ∉ (Text.decimal n).toList := by
    intro hc
    rw [Text.decimal, String.toList_ofList] at hc
    exact absurd (Nat.isDigit_of_mem_toDigits (by decide) (by decide) hc) (by decide)
  rw [method]
  split <;> simp [hdecimal]

theorem return_notMem_schemaExpression (chain : List Constraint) :
    '\r' ∉ (schemaExpression chain).toList := by
  have hmethods : '\r' ∉ (String.join (chain.map method)).toList := by
    induction chain with
    | nil => decide
    | cons c chain ih => simp [return_notMem_method]
  rw [schemaExpression, String.toList_append, List.mem_append, not_or]
  exact ⟨by split <;> decide, hmethods⟩

end Constraint

namespace Form

variable {form : Form}

section Valid

variable (h : form.Valid)
include h

theorem Valid.return_notMem_schemaSymbol : '\r' ∉ form.naming.schemaSymbol.toList :=
  return_notMem_of_isIdentifier (isIdentifier_append h.name (by decide))

theorem Valid.return_notMem_actionSymbol : '\r' ∉ form.naming.actionSymbol.toList :=
  return_notMem_of_isIdentifier (isIdentifier_append h.name (by decide))

theorem Valid.return_notMem_valuesType : '\r' ∉ form.naming.valuesType.toList := by
  have hschema := h.return_notMem_schemaSymbol
  delta Naming.valuesType
  simp [hschema]

theorem Valid.return_notMem_importPath (source target : Role) :
    '\r' ∉ (form.naming.importPath source target).toList := by
  intro hc
  rcases Naming.mem_toList_importPath h.name hc with hslash | hdot | hword
  · exact absurd hslash (by decide)
  · exact absurd hdot (by decide)
  · exact absurd hword (by decide)

theorem Valid.return_notMem_schemaImport (source : Role) :
    '\r' ∉ (form.naming.schemaImport source).line.toList := by
  refine Import.return_notMem_named (fun n hn => ?_) (h.return_notMem_importPath source .schema)
  rw [List.mem_singleton.mp hn]
  exact h.return_notMem_schemaSymbol

theorem Valid.not_returns_serverImports (source : Role) : ¬(form.serverImports source).Returns := by
  have hdatabase : '\r' ∉ (Import.default "clientPromise"
      (form.naming.importPath source .databaseClient)).line.toList :=
    Import.return_notMem_default (by decide) (h.return_notMem_importPath source .databaseClient)
  simp [serverImports, Import.code, h.return_notMem_schemaImport, hdatabase]

end Valid

theorem not_returns_processing (form : Form) {value : String} (hvalue : '\r' ∉ value.toList) :
    ¬(form.processing value).Returns := by
  cases hs : form.storage <;> simp [processing, hs, Storage.insertion, hvalue]

@[simp] theorem returns_guarded {attempt failure : Code} :
    (guarded attempt failure).Returns ↔ attempt.Returns ∨ failure.Returns := by
  simp [guarded]

theorem return_notMem_failureResult : '\r' ∉ failureResult.toList := by decide +kernel

section Valid

variable (h : form.Valid)
include h

theorem Valid.not_returns_schema : ¬form.schema.Returns := by
  have hvalues : '\r' ∉ form.naming.valuesSymbol.toList :=
    return_notMem_of_isIdentifier (isIdentifier_append h.name (by decide))
  have hentries : ∀ f ∈ form.fields, '\r' ∉ f.name.toList := fun f hf =>
    return_notMem_of_isIdentifier (h.fieldNames f hf)
  have hzod : '\r' ∉ (Import.named ["z"] "zod").line.toList := by decide
  simp [schema, Import.code, hzod, h.return_notMem_schemaSymbol, hvalues,
    h.return_notMem_valuesType, Field.schemaEntry, Constraint.return_notMem_schemaExpression]
  exact hentries

theorem Valid.not_returns_serverActionCode : ¬form.serverActionCode.Returns := by
  simp [serverActionCode, h.not_returns_serverImports, h.return_notMem_actionSymbol,
    h.return_notMem_schemaSymbol, return_notMem_failureResult, not_returns_processing]

theorem Valid.not_returns_apiRouteCode : ¬form.apiRouteCode.Returns := by
  have hserver : '\r' ∉ (Import.named ["NextResponse"] "next/server").line.toList := by decide
  have hnext : '\r' ∉ (Import.types ["NextApiRequest", "NextApiResponse"] "next").line.toList := by
    decide
  cases hr : form.routing with
  | app =>
    simp [apiRouteCode, hr, appRoute, Import.code, hserver, h.not_returns_serverImports,
      h.return_notMem_schemaSymbol, return_notMem_failureResult, not_returns_processing]
  | pages =>
    simp [apiRouteCode, hr, pagesRoute, Import.code, hnext, h.not_returns_serverImports,
      h.return_notMem_schemaSymbol, return_notMem_failureResult, not_returns_processing]

end Valid

theorem not_returns_databaseClientCode (form : Form) : ¬form.databaseClientCode.Returns := by
  have hconnection : ¬databaseConnection.Returns := by
    rw [Code.Returns]
    decide +kernel
  cases hs : form.storage <;> simp [databaseClientCode, hs, hconnection]

/-! ## The component -/

theorem not_returns_themeStyle (form : Form) : ¬form.themeStyle.Returns := by
  cases ht : form.theme <;> simp [themeStyle, ht]

theorem Valid.not_returns_componentImports (h : form.Valid) : ¬form.componentImports.Returns := by
  have hreact : '\r' ∉ (Import.named
      (if form.theme.isSome then ["useState", "type CSSProperties"] else ["useState"])
      "react").line.toList := by
    split <;> decide
  have hpackages : ∀ i ∈ [Import.named ["useForm"] "react-hook-form",
      .named ["zodResolver"] "@hookform/resolvers/zod", .named ["z"] "zod",
      .default "Link" "next/link"], '\r' ∉ i.line.toList := by decide
  have hlibrary : ∀ i ∈ [Import.named ["Button"] (libraryModule "button"),
      .named ["Input"] (libraryModule "input"), .named ["Textarea"] (libraryModule "textarea"),
      .named ["Form", "FormControl", "FormField", "FormItem", "FormLabel", "FormMessage"]
        (libraryModule "form"),
      .named ["Card", "CardContent", "CardDescription", "CardFooter", "CardHeader", "CardTitle"]
        (libraryModule "card")], '\r' ∉ i.line.toList := by decide +kernel
  have haction : '\r' ∉ (Import.named [form.naming.actionSymbol]
      (form.naming.importPath .component .serverAction)).line.toList := by
    refine Import.return_notMem_named (fun n hn => ?_) (h.return_notMem_importPath _ _)
    rw [List.mem_singleton.mp hn]
    exact h.return_notMem_actionSymbol
  simp only [List.forall_mem_cons, List.not_mem_nil, false_imp_iff, implies_true, and_true]
    at hpackages hlibrary
  simp [componentImports, Import.code, hreact, hpackages, hlibrary, h.return_notMem_schemaImport,
    haction]

theorem Valid.not_returns_defaultValues (h : form.Valid) : ¬form.defaultValues.Returns := by
  have hnames : ∀ f ∈ form.fields, '\r' ∉ f.name.toList := fun f hf =>
    return_notMem_of_isIdentifier (h.fieldNames f hf)
  simpa [defaultValues] using hnames

/-- The texts of the buttons that stand in the markup as they are. -/
def bareButtonTexts (form : Form) (position : Nat) : List Button → List String
  | [] => []
  | b :: bs =>
    b.bareTexts (form.isSubmit position) form.loadingState ++
      form.bareButtonTexts (position + 1) bs

theorem returns_buttonsFrom (form : Form) (position : Nat) (buttons : List Button) :
    (∃ b ∈ form.buttonsFrom position buttons, b.Returns) ↔
      ∃ s ∈ form.bareButtonTexts position buttons, '\r' ∈ s.toList := by
  induction buttons generalizing position with
  | nil => simp [buttonsFrom, bareButtonTexts]
  | cons b bs ih =>
    simp only [buttonsFrom, bareButtonTexts, List.mem_cons, List.mem_append, or_and_right,
      exists_or, exists_eq_left, ih, Button.returns_markup]

/-- The texts of a form that stand in the markup of its component as they are. -/
def bareTexts (form : Form) : List String :=
  form.fields.flatMap Field.bareTexts ++ form.bareButtonTexts 1 form.buttons ++
    form.link.elim [] Link.bareTexts

theorem return_notMem_containerOpening (form : Form) :
    '\r' ∉ form.containerOpening.toList := by
  have hclass : '\r' ∉ (containerClass form.horizontal form.vertical form.width).toList := by
    intro hc
    rcases mem_toList_containerClass hc with hspace | hletter | ⟨-, hblank⟩
    · exact absurd hspace (by decide)
    · exact absurd hletter (by decide)
    · exact absurd hblank (by decide)
  delta containerOpening
  cases form.theme <;> simp [hclass, Quoted.braced]

theorem Valid.returns_parts (h : form.Valid) :
    ((∃ f ∈ form.parts.fields, f.Returns) ∨ (∃ b ∈ form.parts.buttons, b.Returns) ∨
      ∃ l ∈ form.parts.link, l.Returns) ↔ ∃ s ∈ form.bareTexts, '\r' ∈ s.toList := by
  have hfields : (∃ f ∈ form.parts.fields, f.Returns) ↔
      ∃ s ∈ form.fields.flatMap Field.bareTexts, '\r' ∈ s.toList := by
    constructor
    · rintro ⟨code, hcode, hreturns⟩
      obtain ⟨f, hf, rfl⟩ := List.mem_map.mp hcode
      obtain ⟨s, hs, hmem⟩ := (Field.returns_markup (h.fieldNames f hf)).mp hreturns
      exact ⟨s, List.mem_flatMap.mpr ⟨f, hf, hs⟩, hmem⟩
    · rintro ⟨s, hs, hmem⟩
      obtain ⟨f, hf, hs⟩ := List.mem_flatMap.mp hs
      exact ⟨f.markup, List.mem_map_of_mem hf,
        (Field.returns_markup (h.fieldNames f hf)).mpr ⟨s, hs, hmem⟩⟩
  have hlink : (∃ l ∈ form.parts.link, l.Returns) ↔
      ∃ s ∈ form.link.elim [] Link.bareTexts, '\r' ∈ s.toList := by
    cases hl : form.link with
    | none => simp [parts, hl]
    | some l => simp [parts, hl, l.returns_markup]
  have hbuttons : (∃ b ∈ form.parts.buttons, b.Returns) ↔
      ∃ s ∈ form.bareButtonTexts 1 form.buttons, '\r' ∈ s.toList :=
    form.returns_buttonsFrom 1 form.buttons
  rw [hfields, hbuttons, hlink]
  simp only [bareTexts, List.mem_append, or_and_right, exists_or, or_assoc]

theorem Valid.returns_view (h : form.Valid) :
    form.view.Returns ↔ ∃ s ∈ form.bareTexts, '\r' ∈ s.toList := by
  have hname := return_notMem_of_isIdentifier h.name
  have htitle : '\r' ∉ (Quoted.childText form.name).toList := by
    rw [Quoted.return_mem_childText, Quoted.bareChild]
    split <;> simp [hname]
  rw [← h.returns_parts, ← form.parts.returns_arrange htitle form.layout]
  simp [view, Quoted.braced, htitle, form.return_notMem_containerOpening]

/-- The component has a carriage return in a line exactly when a text that stands in its markup as
it is has one. -/
theorem Valid.returns_component (h : form.Valid) :
    form.component.Returns ↔ ∃ s ∈ form.bareTexts, '\r' ∈ s.toList := by
  have hsymbol : '\r' ∉ form.naming.componentSymbol.toList :=
    return_notMem_of_isIdentifier (isIdentifier_append h.name (by decide))
  have hhandler : ¬(form.submission.handler form.naming).Returns :=
    form.submission.not_returns_handler h.name
  rw [← h.returns_view]
  simp [component, componentBody, h.not_returns_componentImports, form.not_returns_themeStyle,
    hsymbol, form.submission.not_returns_stateHooks, h.return_notMem_valuesType,
    h.return_notMem_schemaSymbol, h.not_returns_defaultValues, hhandler]

/-- A carriage return gets into the source of an artifact only through the markup. -/
theorem Valid.returns_code (h : form.Valid) (role : Role) :
    (form.code role).Returns ↔ role = .component ∧ ∃ s ∈ form.bareTexts, '\r' ∈ s.toList := by
  cases role with
  | component => simpa [code] using h.returns_component
  | schema => simpa [code] using h.not_returns_schema
  | serverAction => simpa [code] using h.not_returns_serverActionCode
  | apiRoute => simpa [code] using h.not_returns_apiRouteCode
  | databaseClient => simpa [code] using form.not_returns_databaseClientCode
  | snapshot => simp [code]

/-! ## Forms without their texts -/

/-- The form without its labels, placeholders, messages and the texts of its buttons and link. -/
def withoutTexts (form : Form) : Form :=
  { form with
    fields := form.fields.map fun f => { f with label := "", placeholder := "", message := none }
    buttons := form.buttons.map fun b => { b with text := "" }
    link := form.link.map fun _ => { text := "", target := "" }
    successMessage := ""
    errorMessage := "" }

/-! ## Shapes -/

theorem shape_fields (fields : List Field) :
    (Code.seq (fields.map Field.markup)).shape =
      fields.flatMap fun _ => List.replicate 13 true := by
  simp [Code.shape_seq, List.flatMap_map, Field.markup]

theorem shape_buttonsFrom (form : Form) (position : Nat) (buttons : List Button) :
    (Code.seq (form.buttonsFrom position buttons)).shape =
      buttons.flatMap fun _ => List.replicate 3 true := by
  have hbutton (b : Button) (submits loadingState : Bool) :
      (b.markup submits loadingState).shape = List.replicate 3 true := by
    rw [Button.markup]
    split <;> simp
  induction buttons generalizing position with
  | nil => rfl
  | cons b bs ih => rw [buttonsFrom, Code.shape_seq_cons, ih, hbutton, List.flatMap_cons]

theorem shape_parts_withoutTexts (form : Form) :
    (form.withoutTexts.parts.arrange form.layout).shape =
      (form.parts.arrange form.layout).shape := by
  have hfields : (Code.seq form.withoutTexts.parts.fields).shape =
      (Code.seq form.parts.fields).shape := by
    rw [parts, parts, shape_fields, shape_fields, withoutTexts, List.flatMap_map]
  have hbuttons : (Code.seq form.withoutTexts.parts.buttons).shape =
      (Code.seq form.parts.buttons).shape := by
    rw [parts, parts, shape_buttonsFrom, shape_buttonsFrom, withoutTexts, List.flatMap_map]
  have hlink : (form.withoutTexts.parts.link.getD .empty).shape =
      (form.parts.link.getD .empty).shape := by
    cases hl : form.link <;> simp [parts, withoutTexts, hl, Link.markup]
  have hactions : (Code.seq form.withoutTexts.parts.actions).shape =
      (Code.seq form.parts.actions).shape := by
    simp [Parts.actions, hbuttons, hlink]
  cases form.layout <;> simp [Parts.arrange, Parts.cardHeader, hfields, hactions]

theorem shape_handler_withoutTexts (form : Form) (names : Naming) :
    (form.withoutTexts.submission.handler names).shape = (form.submission.handler names).shape := by
  have hstrategy : form.withoutTexts.submission.strategy = form.submission.strategy := rfl
  have hloading : form.withoutTexts.submission.loadingState = form.submission.loadingState := rfl
  have herror : form.withoutTexts.submission.errorDisplay = form.submission.errorDisplay := rfl
  have hattempt : (form.withoutTexts.submission.attempt names).shape =
      (form.submission.attempt names).shape := by
    rw [Submission.attempt, Submission.attempt, hstrategy]
    split <;> simp [Submission.checkResult, Submission.onSuccess]
  have honError : form.withoutTexts.submission.onError.shape = form.submission.onError.shape := by
    simp [Submission.onError, herror]
  simp only [Submission.handler, hloading, herror, Code.shape_seq_cons, Code.shape_block, hattempt,
    Code.shape_indent, honError]

theorem componentImports_withoutTexts (form : Form) :
    form.withoutTexts.componentImports = form.componentImports := by
  have htextarea : form.withoutTexts.hasTextarea = form.hasTextarea := by
    rw [hasTextarea, hasTextarea, withoutTexts, List.any_map]
    rfl
  have hinput : form.withoutTexts.hasSingleLineInput = form.hasSingleLineInput := by
    rw [hasSingleLineInput, hasSingleLineInput, withoutTexts, List.any_map]
    rfl
  have hlink : form.withoutTexts.link.isSome = form.link.isSome := Option.isSome_map ..
  rw [componentImports, componentImports, htextarea, hinput, hlink]
  rfl

theorem shape_view_withoutTexts (form : Form) : form.withoutTexts.view.shape = form.view.shape := by
  have herror : form.withoutTexts.errorDisplay = form.errorDisplay := rfl
  have hlayout : form.withoutTexts.layout = form.layout := rfl
  simp only [view, Code.shape_block, Code.shape_seq_cons, Code.shape_line, Code.shape_when, herror,
    hlayout, shape_parts_withoutTexts]

theorem shape_component_withoutTexts (form : Form) :
    form.withoutTexts.component.shape = form.component.shape := by
  have hdefaults : form.withoutTexts.defaultValues.shape = form.defaultValues.shape := by
    simp [defaultValues, withoutTexts, Code.shape_seq, List.flatMap_map]
  have hhooks : form.withoutTexts.submission.stateHooks = form.submission.stateHooks := rfl
  have htheme : form.withoutTexts.themeStyle = form.themeStyle := rfl
  have hnaming : form.withoutTexts.naming = form.naming := rfl
  simp only [component, componentBody, Code.shape_seq_cons, Code.shape_line, Code.shape_gap,
    Code.shape_block, componentImports_withoutTexts, htheme, hhooks, hdefaults, hnaming,
    shape_handler_withoutTexts, shape_view_withoutTexts]

theorem shape_schema_withoutTexts (form : Form) :
    form.withoutTexts.schema.shape = form.schema.shape := by
  have hentries : (Code.seq (form.withoutTexts.fields.map Field.schemaEntry)).shape =
      (Code.seq (form.fields.map Field.schemaEntry)).shape := by
    simp [withoutTexts, Code.shape_seq, List.flatMap_map, Field.schemaEntry]
  simp only [schema, Import.code, Code.shape_seq_cons, Code.shape_line, Code.shape_gap,
    Code.shape_block, hentries]

/-- The lines and gaps of the source do not depend on the texts. -/
theorem shape_code_withoutTexts (form : Form) (role : Role) :
    (form.withoutTexts.code role).shape = (form.code role).shape := by
  cases role with
  | component => exact form.shape_component_withoutTexts
  | schema => exact form.shape_schema_withoutTexts
  | serverAction => rfl
  | apiRoute => rfl
  | databaseClient => rfl
  | snapshot => rfl

/-! ## Lines that say something -/

theorem empty_notMem_topTexts_serverImports (form : Form) (source : Role) :
    "" ∉ (form.serverImports source).topTexts := by
  simp [serverImports, Import.code, Naming.schemaImport, Import.line]

theorem empty_notMem_topTexts (form : Form) (role : Role) : "" ∉ (form.code role).topTexts := by
  cases role with
  | component =>
    have himports : "" ∉ form.componentImports.topTexts := by
      simp [componentImports, Import.code, Naming.schemaImport, Import.line]
    cases ht : form.theme <;> simp [code, component, himports, themeStyle, ht]
  | schema => simp [code, schema, Import.code, Import.line]
  | serverAction => simp [code, serverActionCode, empty_notMem_topTexts_serverImports]
  | apiRoute =>
    cases hr : form.routing <;>
      simp [code, apiRouteCode, hr, appRoute, pagesRoute, Import.code, Import.line,
        empty_notMem_topTexts_serverImports]
  | databaseClient =>
    cases hs : form.storage <;>
      simp [code, databaseClientCode, databaseConnection, hs, Import.code, Import.line]
  | snapshot => simp [code]

/-! ## All artifacts -/

theorem Valid.return_mem_contents (h : form.Valid) {role : Role} (hrole : role ≠ .snapshot) :
    '\r' ∈ (form.contents role).toList ↔ (form.code role).Returns := by
  have hfeed := (h.turns_code role).2
  rw [form.contents_eq_render hrole, ← Text.exists_mem_sourceLines_iff (by decide)]
  constructor
  · rintro ⟨l, hl, hmem⟩
    have hne : l ≠ "" := by
      rintro rfl
      exact absurd hmem List.not_mem_nil
    obtain ⟨m, hm, rfl⟩ := (Code.mem_sourceLines_render hfeed hne).mp hl
    rw [Code.toList_indented, List.mem_append] at hmem
    refine ⟨m.2, Code.mem_texts_of_mem_lines hm, hmem.resolve_left fun hspace => ?_⟩
    exact absurd (List.eq_of_mem_replicate hspace) (by decide)
  · rintro ⟨t, ht, hmem⟩
    obtain ⟨m, hm, rfl⟩ := List.mem_map.mp ht
    have hline : '\r' ∈ (Code.indented m.1 m.2).toList := by
      rw [Code.toList_indented]
      exact List.mem_append_right _ hmem
    refine ⟨Code.indented m.1 m.2, ?_, hline⟩
    refine (Code.mem_sourceLines_render hfeed ?_).mpr ⟨m, hm, rfl⟩
    intro hempty
    rw [hempty] at hline
    exact absurd hline List.not_mem_nil

theorem Valid.length_sourceLines_eq {other : Form} (h : form.Valid) (hother : other.Valid)
    (hsame : other.withoutTexts = form.withoutTexts) {role : Role} (hrole : role ≠ .snapshot) :
    (Text.sourceLines (other.contents role)).length =
      (Text.sourceLines (form.contents role)).length := by
  rw [other.contents_eq_render hrole, form.contents_eq_render hrole]
  refine Code.length_sourceLines_eq (hother.turns_code role).2 (h.turns_code role).2
    (other.empty_notMem_topTexts role) (form.empty_notMem_topTexts role) ?_
  rw [← shape_code_withoutTexts other, hsame, shape_code_withoutTexts form]

/-- Where lines end in the artifacts of a form.  Each is the text of a tree of lines none of which
holds a line feed, and it has as many lines as that artifact of any other form that differs only in
its texts.  A line holds a carriage return exactly if it belongs to the component and a text that
stands in the markup as it is holds one; all readers of line ends see the same number of lines
exactly if none does. -/
theorem lineEnds_of_generate {artifacts : List Artifact} (h : form.generate = .ok artifacts) :
    ∀ a ∈ artifacts, a.role ≠ .snapshot →
      (a.contents = (form.code a.role).render ∧
        ∀ t ∈ (form.code a.role).texts, '\n' ∉ t.toList) ∧
      ((∃ l ∈ Text.sourceLines a.contents, '\r' ∈ l.toList) ↔
        a.role = .component ∧ ∃ s ∈ form.bareTexts, '\r' ∈ s.toList) ∧
      ((∀ reader : LineEnd,
          (reader.lines a.contents).length = (Text.sourceLines a.contents).length) ↔
        ¬∃ l ∈ Text.sourceLines a.contents, '\r' ∈ l.toList) ∧
      ∀ other : Form, ∀ others, other.generate = .ok others →
        other.withoutTexts = form.withoutTexts → ∀ b ∈ others, b.role = a.role →
          (Text.sourceLines b.contents).length = (Text.sourceLines a.contents).length := by
  obtain ⟨hvalid, rfl⟩ := valid_of_generate h
  intro a ha hrole
  obtain ⟨role, -, rfl⟩ := List.mem_map.mp ha
  have hrole : role ≠ .snapshot := hrole
  have hcontents : (form.artifact role).contents = form.contents role := rfl
  have hartifact : (form.artifact role).role = role := rfl
  rw [hcontents, hartifact, Text.length_lines_iff, Text.exists_mem_sourceLines_iff (by decide)]
  refine ⟨⟨form.contents_eq_render hrole, (hvalid.turns_code role).2⟩, ?_, Iff.rfl, ?_⟩
  · rw [hvalid.return_mem_contents hrole, hvalid.returns_code]
  · intro other others hgenerate htexts b hb hbrole
    obtain ⟨hother, rfl⟩ := valid_of_generate hgenerate
    obtain ⟨source, -, rfl⟩ := List.mem_map.mp hb
    obtain rfl : source = role := hbrole
    exact hvalid.length_sourceLines_eq hother htexts hrole

/-- A form with line ends in all of its texts, all of which are written as literals. -/
def quotedLineEnds : Form :=
  { named "contact" with
    fields :=
      [{ name := "email", label := "Your\r\nemail", placeholder := "\r\n", type := .email,
         rules := "required", message := some "\r" }]
    buttons := [{ text := "Send\r", variant := .default }]
    successMessage := "\r\n"
    errorMessage := "\r"
    link := some { text := "Back\r\n", target := "/\r\n" } }

theorem lineEnds_of_generate_quotedLineEnds :
    quotedLineEnds.generate = .ok quotedLineEnds.artifacts ∧
      ∀ a ∈ quotedLineEnds.artifacts, a.role ≠ .snapshot → ∀ reader : LineEnd,
        (reader.lines a.contents).length = (Text.sourceLines a.contents).length := by
  have h : quotedLineEnds.generate = .ok quotedLineEnds.artifacts :=
    generate_of_valid (by decide) (by decide)
  refine ⟨h, fun a ha hrole => ?_⟩
  obtain ⟨-, hreturns, hreaders, -⟩ := lineEnds_of_generate h a ha hrole
  rw [hreaders, hreturns]
  rintro ⟨-, s, hs, hmem⟩
  have hbare : quotedLineEnds.bareTexts = [] := by decide
  exact absurd (hbare ▸ hs) List.not_mem_nil

/-- A form with a carriage return in the text of its button. -/
def returnNamed : Form :=
  { named "contact" with
    buttons := [{ text := "Se\rnd", variant := .default }]
    loadingState := false }

theorem returnNamed_breaksLine :
    returnNamed.generate = .ok returnNamed.artifacts ∧
      ∃ a ∈ returnNamed.artifacts, a.role = .component ∧
        (∃ l ∈ Text.sourceLines a.contents, '\r' ∈ l.toList) ∧
        ¬∀ reader : LineEnd,
          (reader.lines a.contents).length = (Text.sourceLines a.contents).length := by
  have h : returnNamed.generate = .ok returnNamed.artifacts :=
    generate_of_valid (by decide) (by decide)
  have hvalid := (valid_of_generate h).1
  have hbare : ∃ s ∈ returnNamed.bareTexts, '\r' ∈ s.toList := ⟨"Se\rnd", by decide, by decide⟩
  have hreturn : '\r' ∈ (returnNamed.contents .component).toList :=
    (hvalid.return_mem_contents (by decide)).mpr (hvalid.returns_component.mpr hbare)
  refine ⟨h, returnNamed.artifact .component, by simp [artifacts, roles], rfl, ?_, ?_⟩
  · exact (Text.exists_mem_sourceLines_iff (by decide)).mpr hreturn
  · intro hreaders
    exact (Text.length_lines_iff _).mp hreaders hreturn

end Form

end FormScaffold
