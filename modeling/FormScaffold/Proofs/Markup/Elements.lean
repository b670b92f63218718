import Mathlib.Data.String.Basic
import FormScaffold.Form.Valid
import FormScaffold.Markup
import FormScaffold.Proofs.Code.Lines
import FormScaffold.Proofs.Markup.Reader

/-!
# What markup shows

Fields, buttons and links show the texts of the form to every reader of markup, unless a text holds
what has a meaning of its own in markup and is not put into braces (`MarkupReader.elements_iff`).
-/

namespace FormScaffold

open Quoted (attributeValue braced childText endsAttribute endsChildText literal)

/-- The lines of a piece as they stand at a depth. -/
def Code.sourceAt (depth : Nat) (code : Code) : List String :=
  (code.lines depth).map fun l => Code.indented l.1 l.2

/-! ## Fields -/

/-- The element of the input of a field. -/
def Field.controlElement (field : Field) : MarkupElement :=
  match field.type with
  | .textarea => { name := "Textarea", attributes := [("placeholder", field.placeholder)] }
  | type =>
    { name := "Input", attributes := [("type", type.name), ("placeholder", field.placeholder)] }

/-- The elements of a field. -/
def Field.markupElements (field : Field) : List MarkupElement :=
  [ { name := "FormItem" }, { name := "FormLabel", content := field.label },
    { name := "FormControl" }, field.controlElement, { name := "FormMessage" } ]

namespace MarkupReader

variable {reader : MarkupReader} {submitting : Bool} {depth : Nat}

theorem elements_label (label : String) (lines : List String) :
    reader.elements submitting
      (Code.indented depth ("<FormLabel>" ++ childText label ++ "</FormLabel>") :: lines) =
      { name := "FormLabel", content := reader.inlineShown label } ::
        reader.elements submitting lines := by
  have hname : IsElementName "FormLabel" := by decide
  have htext : ("<FormLabel>" ++ childText label ++ "</FormLabel>").toList =
      '<' :: ("FormLabel".toList ++ (attributesText [] ++
        '>' :: ((childText label).toList ++ "</FormLabel>".toList))) := by
    simp [attributesText]
  have hcontent := readContent?_inline reader submitting label
    ("/FormLabel>".toList ++ behindLine lines)
  rw [elements_tag hname (List.forall_mem_nil _) htext (readParts?_open _)
    (by simpa using hcontent), String.ofList_toList]
  rfl

theorem toList_control (field : Field) :
    field.control.toList = '<' :: (field.controlElement.name.toList ++
      (attributesText field.controlElement.attributes ++
        ' ' :: ((braced "...field").toList ++ [' ', '/', '>']))) := by
  have hname (type : InputType) : attributeValue type.name = "\x22" ++ type.name ++ "\x22" := by
    cases type <;> rfl
  obtain ⟨name, label, placeholder, type, rules, message⟩ := field
  cases type <;> simp [Field.control, Field.controlElement, attributesText, hname]

theorem elements_control (field : Field) (lines : List String) :
    reader.elements submitting (Code.indented depth field.control :: lines) =
      { field with placeholder := reader.attributeShown field.placeholder }.controlElement ::
        reader.elements submitting lines := by
  have hname : IsElementName field.controlElement.name := by
    unfold Field.controlElement
    split
    · show IsElementName "Textarea"
      decide
    · show IsElementName "Input"
      decide
  have hattributes : ∀ a ∈ field.controlElement.attributes, IsAttributeName a.1 := by
    unfold Field.controlElement
    split
    · simp only [List.forall_mem_singleton]
      decide
    · simp only [List.forall_mem_cons]
      decide
  have hend : reader.readParts? (' ' :: ((braced "...field").toList ++ [' ', '/', '>']) ++
      behindLine lines) =
      some { attributes := [], closed := true, behind := behindLine lines } := by
    rw [List.cons_append, List.append_assoc,
      readParts?_part (by simp [braced]) (readPart?_braced (by decide) _) (by simp [braced])]
    exact congrArg (Option.map _) (readParts?_closed _)
  have hshown (type : InputType) : reader.attributeShown type.name = type.name :=
    reader.attributeShown_of_notMem (by cases type <;> decide)
  rw [elements_tag hname hattributes (toList_control field) hend rfl]
  obtain ⟨name, label, placeholder, type, rules, message⟩ := field
  cases type <;> simp [Field.controlElement, hshown]

theorem elements_field (field : Field) :
    reader.elements submitting (field.markup.sourceAt depth) =
      { field with
        label := reader.inlineShown field.label
        placeholder := reader.attributeShown field.placeholder }.markupElements := by
  have hfield : IsElementName "FormField" := by decide
  have hitem : IsElementName "FormItem" := by decide
  have hcontrol : IsElementName "FormControl" := by decide
  have hmessage : IsElementName "FormMessage" := by decide
  have hlabel : ("<FormLabel>" ++ childText field.label ++ "</FormLabel>").toList =
      '<' :: ("FormLabel>".toList ++ (childText field.label).toList ++ "</FormLabel>".toList) := by
    simp
  have hlast (lines : List String) :
      reader.elements submitting (Code.indented (depth + 1 + 1 + 1) "<FormMessage />" :: lines) =
        { name := "FormMessage" } :: reader.elements submitting lines :=
    elements_tag hmessage (List.forall_mem_nil _) rfl (readParts?_closed _) rfl
  simp only [Code.sourceAt, Field.markup, Code.lines_seq_cons, Code.lines_seq_nil, Code.lines_line,
    Code.lines_indent, Code.lines_block, List.map_cons, List.map_nil, List.cons_append,
    List.nil_append, List.append_nil]
  rw [elements_unended hfield rfl, elements_skip (by simp), elements_skip (by simp),
    elements_skip (by simp), elements_opening hitem rfl hlabel, elements_label,
    elements_opening hcontrol rfl (toList_control field), elements_control, elements_closing rfl,
    hlast, elements_closing rfl, elements_skip (by simp), elements_skip (by simp)]
  rfl

end MarkupReader

/-! ## Buttons and links -/

/-- The element of a button. -/
def Button.markupElement (button : Button) (submits : Bool) : MarkupElement :=
  { name := "Button"
    attributes :=
      [("type", if submits then "submit" else "button"), ("variant", button.variant.name)]
    content := button.text }

/-- The element of a link. -/
def Link.markupElement (link : Link) : MarkupElement :=
  { name := "Link"
    attributes :=
      [("href", link.target), ("className", "text-sm text-blue-600 hover:underline")]
    content := link.text }

namespace MarkupReader

variable {reader : MarkupReader} {submitting : Bool} {depth : Nat}

theorem isAttributeName_button (button : Button) (submits : Bool) :
    ∀ a ∈ (button.markupElement submits).attributes, IsAttributeName a.1 := by
  simp only [Button.markupElement, List.forall_mem_cons]
  decide

theorem attributeShown_button (reader : MarkupReader) (button : Button) (submits : Bool) :
    (button.markupElement submits).attributes.map (Prod.map id reader.attributeShown) =
      (button.markupElement submits).attributes := by
  have htype : reader.attributeShown (if submits then "submit" else "button") =
      if submits then "submit" else "button" :=
    reader.attributeShown_of_notMem (by cases submits <;> decide)
  have hvariant : reader.attributeShown button.variant.name = button.variant.name :=
    reader.attributeShown_of_notMem (by cases button.variant <;> decide)
  simp [Button.markupElement, htype, hvariant]

theorem toList_buttonOpening (button : Button) (submits : Bool) (cs : List Char) :
    ("<Button type=\"" ++ (if submits then "submit" else "button") ++ "\" variant=\"" ++
      button.variant.name ++ "\"").toList ++ cs =
      '<' :: ("Button".toList ++
        (attributesText (button.markupElement submits).attributes ++ cs)) := by
  have htype : attributeValue (if submits then "submit" else "button") =
      "\x22" ++ (if submits then "submit" else "button") ++ "\x22" := by
    cases submits <;> rfl
  have hvariant : attributeValue button.variant.name = "\x22" ++ button.variant.name ++ "\x22" := by
    cases button.variant <;> rfl
  simp [Button.markupElement, attributesText, htype, hvariant]

/-- No tag begins at the text of a button. -/
theorem head?_childText (s : String) :
    ((childText s).toList.dropWhile (· = ' ')).head? ≠ some '<' := by
  by_cases h : s.toList.any endsChildText = true
  · simp [childText, h, braced]
  · rw [childText, if_neg h]
    intro hhead
    have hmem : '<' ∈ s.toList := (List.dropWhile_sublist _).subset (List.mem_of_mem_head? hhead)
    exact absurd (isChildText_of_plain h '<' hmem) (by decide)

theorem elements_button (button : Button) {submits loadingState : Bool}
    (h : (submits && loadingState) = false) :
    reader.elements submitting ((button.markup submits loadingState).sourceAt depth) =
      [{ button with text := reader.ownLineShown button.text }.markupElement submits] := by
  have hname : IsElementName "Button" := by decide
  have hcontent := readContent?_ownLine reader submitting (2 * (depth + 1)) (2 * depth) button.text
    "/Button>".toList
  simp only [Code.sourceAt, Button.markup, h, Bool.false_eq_true, if_false, Code.lines_block,
    Code.lines_line, List.map_cons, List.cons_append, List.nil_append, List.map_nil]
  rw [elements_tag hname (isAttributeName_button button submits)
    ((String.toList_append ..).trans (toList_buttonOpening button submits _)) (readParts?_open _)
    (by simpa using hcontent), elements_skip (head?_childText _), elements_closing rfl,
    attributeShown_button, String.ofList_toList]
  rfl

theorem elements_loadingButton (button : Button) :
    reader.elements submitting ((button.markup true true).sourceAt depth) =
      [{ button with text := if submitting then submittingText else button.text }.markupElement
        true] := by
  have hname : IsElementName "Button" := by decide
  have hcontent := readContent?_expression reader
    (readExpression?_submitting submitting submittingText button.text)
    (isChildText_moved (2 * (depth + 1))) (isChildText_moved (2 * depth)) "/Button>".toList
  have hdisabled (rest : List Char) :
      reader.readPart? ("disabled=".toList ++ ((braced "isSubmitting").toList ++ rest)) =
        some ([], rest) := by
    rfl
  have hend (rest : List Char) : reader.readParts?
      (' ' :: ("disabled=".toList ++ ((braced "isSubmitting").toList ++ '>' :: rest))) =
      some { attributes := [], closed := false, behind := rest } := by
    rw [readParts?_part (by simp) (hdisabled _) (by simp; omega)]
    exact congrArg (Option.map _) (readParts?_open _)
  have htext : ("<Button type=\"" ++ "submit" ++ "\" variant=\"" ++
      button.variant.name ++ "\"" ++ " disabled=" ++ braced "isSubmitting" ++ ">").toList =
      '<' :: ("Button".toList ++ (attributesText (button.markupElement true).attributes ++
        ' ' :: ("disabled=".toList ++ ((braced "isSubmitting").toList ++ ['>'])))) := by
    rw [String.toList_append, String.toList_append, String.toList_append, List.append_assoc,
      List.append_assoc]
    exact toList_buttonOpening button true _
  simp only [Code.sourceAt, Button.markup, Bool.and_self, if_true, Code.lines_block,
    Code.lines_line, List.map_cons, List.cons_append, List.nil_append, List.map_nil]
  rw [elements_tag hname (isAttributeName_button button true) htext (by simpa using hend _)
    (by simpa [Quoted.toList_braced_append] using hcontent), elements_skip (by simp [braced]),
    elements_closing rfl, attributeShown_button, String.ofList_toList]
  rfl

theorem elements_link (link : Link) :
    reader.elements submitting (link.markup.sourceAt depth) =
      [{ target := reader.attributeShown link.target
         text := reader.inlineShown link.text : Link }.markupElement] := by
  have hclass : attributeValue "text-sm text-blue-600 hover:underline" =
      "\x22text-sm text-blue-600 hover:underline\x22" := by
    rfl
  have hclassShown : reader.attributeShown "text-sm text-blue-600 hover:underline" =
      "text-sm text-blue-600 hover:underline" :=
    reader.attributeShown_of_notMem (by decide)
  have hname : IsElementName "Link" := by decide
  have hattributes : ∀ a ∈ link.markupElement.attributes, IsAttributeName a.1 := by
    simp only [Link.markupElement, List.forall_mem_cons]
    decide
  have htext : ("<Link href=" ++ attributeValue link.target ++
      " className=\"text-sm text-blue-600 hover:underline\">" ++ childText link.text ++
        "</Link>").toList =
      '<' :: ("Link".toList ++ (attributesText link.markupElement.attributes ++
        '>' :: ((childText link.text).toList ++ "</Link>".toList))) := by
    simp [Link.markupElement, attributesText, hclass]
  have hcontent := readContent?_inline reader submitting link.text "/Link>".toList
  simp only [Code.sourceAt, Link.markup, Code.lines_line, List.map_cons, List.map_nil]
  rw [elements_tag hname hattributes htext (readParts?_open _) (by simpa using hcontent)]
  simp [Link.markupElement, hclassShown, elements]

/-! ## Texts that are shown as they are -/

/-- In an attribute, a text is shown if it is put into braces or holds no reference. -/
def ShowsInAttribute (reader : MarkupReader) (s : String) : Prop :=
  s.toList.any endsAttribute = true ∨ ¬reader.HasReference s.toList

/-- Between two tags, a text is shown if it is put into braces, or else holds neither a carriage
return nor a reference. -/
def ShowsInline (reader : MarkupReader) (s : String) : Prop :=
  s.toList.any endsChildText = true ∨ '\r' ∉ s.toList ∧ ¬reader.HasReference s.toList

/-- On a line of its own, a text must besides not begin or end with white space. -/
def ShowsOnLine (reader : MarkupReader) (s : String) : Prop :=
  s.toList.any endsChildText = true ∨
    '\r' ∉ s.toList ∧ ¬reader.HasReference s.toList ∧
      (∀ c ∈ s.toList.head?, reader.isSpace c = false) ∧
        ∀ c ∈ s.toList.getLast?, reader.isSpace c = false

/-- Of the two line ends, child text without braces can hold only one. -/
theorem forall_not_isLineEnd_iff {s : String} (h : ¬s.toList.any endsChildText = true) :
    (∀ c ∈ s.toList, isLineEnd c = false) ↔ '\r' ∉ s.toList := by
  have hfeed : '\n' ∉ s.toList := fun hmem => h (List.any_eq_true.mpr ⟨'\n', hmem, by decide⟩)
  simp only [isLineEnd, Bool.or_eq_false_iff, decide_eq_false_iff_not]
  constructor
  · exact fun hends hreturn => (hends _ hreturn).2 rfl
  · rintro hreturn c hc
    exact ⟨fun heq => hfeed (heq ▸ hc), fun heq => hreturn (heq ▸ hc)⟩

theorem attributeShown_eq_self_iff {s : String} :
    reader.attributeShown s = s ↔ reader.ShowsInAttribute s := by
  rw [attributeShown, ShowsInAttribute]
  split
  · next h => simp [h]
  · next h => simp [h, String.ofList_eq, resolve_eq_iff le_rfl]

theorem inlineShown_eq_self_iff {s : String} : reader.inlineShown s = s ↔ reader.ShowsInline s := by
  rw [inlineShown, ShowsInline]
  split
  · next h => simp [h]
  · next h => simp [h, String.ofList_eq, childMeaning_eq_self_iff, forall_not_isLineEnd_iff h]

theorem ownLineShown_eq_self_iff {s : String} :
    reader.ownLineShown s = s ↔ reader.ShowsOnLine s := by
  rw [ownLineShown, ShowsOnLine]
  split
  · next h => simp [h]
  · next h => simp [h, String.ofList_eq, ownLineMeaning_eq_self_iff, forall_not_isLineEnd_iff h]

/-- A page shows the texts of a field, of a button and of a link exactly when they are put into
braces or hold nothing with a meaning of its own where they stand.  The submit button of a form
with a loading state shows its text in any case, and another one while a submission is under way. -/
theorem elements_iff (reader : MarkupReader) (submitting : Bool) (depth : Nat) :
    (∀ field : Field,
      reader.elements submitting (field.markup.sourceAt depth) = field.markupElements ↔
        reader.ShowsInline field.label ∧ reader.ShowsInAttribute field.placeholder) ∧
    (∀ (button : Button) (submits loadingState : Bool),
      reader.elements submitting ((button.markup submits loadingState).sourceAt depth) =
        [button.markupElement submits] ↔
        if submits && loadingState then submitting = false ∨ button.text = submittingText
        else reader.ShowsOnLine button.text) ∧
    ∀ link : Link,
      reader.elements submitting (link.markup.sourceAt depth) = [link.markupElement] ↔
        reader.ShowsInAttribute link.target ∧ reader.ShowsInline link.text := by
  refine ⟨fun field => ?_, fun button submits loadingState => ?_, fun link => ?_⟩
  · rw [elements_field, ← inlineShown_eq_self_iff, ← attributeShown_eq_self_iff]
    obtain ⟨name, label, placeholder, type, rules, message⟩ := field
    cases type <;> simp [Field.markupElements, Field.controlElement]
  · split
    · next h =>
      obtain ⟨rfl, rfl⟩ := Bool.and_eq_true_iff.mp h
      rw [elements_loadingButton]
      cases submitting <;> simp [Button.markupElement, eq_comm]
    · next h =>
      rw [elements_button button (eq_false_of_ne_true h), ← ownLineShown_eq_self_iff]
      simp [Button.markupElement]
  · rw [elements_link, ← attributeShown_eq_self_iff, ← inlineShown_eq_self_iff]
    simp [Link.markupElement]

end MarkupReader

/-- A form whose only button is `button`, without a loading state. -/
def Form.withButton (button : Button) : Form :=
  { Form.named "contact" with buttons := [button], loadingState := false }

/-- A button whose text names a character. -/
def Button.questions : Button := { text := "Q&amp;A", variant := .default }

theorem Button.questions_misread :
    (Form.withButton questions).violation? = none ∧
      MarkupReader.standard.elements false ((questions.markup true false).sourceAt 0) =
        [{ questions with text := "Q&A" }.markupElement true] ∧
      [{ questions with text := "Q&A" }.markupElement true] ≠ [questions.markupElement true] := by
  refine ⟨by decide, ?_, by decide⟩
  rw [MarkupReader.elements_button questions rfl]
  decide

end FormScaffold
