import FormScaffold.Proofs.Artifact.Bindings
import FormScaffold.Proofs.Artifact.Elements
import FormScaffold.Proofs.Naming.Import

/-!
# Names that only some forms need

A component declares a name that only some forms need exactly if a line of its markup uses it.
Both the declarations and the uses are read off the lines of the component, and both are what the
outline of the form asks for, in this order, whatever its texts are (`Form.features_of_generate`).
-/

namespace FormScaffold

/-! ## Declarations -/

/-- A name that a component declares only if it is used. -/
inductive Feature where
  | styleType | link | input | textarea | card | style | submitting | error
deriving DecidableEq, Repr

/-- The features that are imported, with their names and the modules they are imported from. -/
def Feature.imported : List (Feature × String × String) :=
  [ (.styleType, "CSSProperties", "react"),
    (.link, "Link", "next/link"),
    (.input, "Input", Form.libraryModule "input"),
    (.textarea, "Textarea", Form.libraryModule "textarea"),
    (.card, "Card", Form.libraryModule "card") ]

/-- The feature that an import declares, by a name that it binds and by its module. -/
def Feature.ofImport? (i : Import) : Option Feature :=
  (imported.find? fun (_, name, source) => name ∈ i.bound ∧ i.source = source).map (·.1)

/-- The feature that a line declares: imports and the style are not moved in, the state of the
component is moved in once. -/
def Feature.declaredAt? (line : String) : Option Feature :=
  if startsImport line then (Import.read? line).bind ofImport?
  else if startsWith "const themeStyle = " line then some .style
  else if startsWith "  const [isSubmitting, " line then some .submitting
  else if startsWith "  const [error, " line then some .error
  else none

/-- The features that a text declares, in the order of its lines. -/
def declaredFeatures (text : String) : List Feature :=
  (Text.sourceLines text).filterMap Feature.declaredAt?

/-! ## Uses -/

/-- A line of markup that may use a feature. -/
inductive Use where
  | container (styled : Bool)
  | card
  | input
  | textarea
  | submit (disabled : Bool)
  | link
  | error
deriving DecidableEq, Repr

/-- What a line of markup is, given its characters behind the spaces in front. -/
def Use.ofChars? (cs : List Char) : Option Use :=
  if "<div className=\"flex flex-col ".toList.isPrefixOf cs then
    some (.container (" style=\x7bthemeStyle\x7d>".toList.isSuffixOf cs))
  else if cs = "<Card>".toList then some .card
  else if "<Input ".toList.isPrefixOf cs then some .input
  else if "<Textarea ".toList.isPrefixOf cs then some .textarea
  else if "<Button type=\"submit\"".toList.isPrefixOf cs then
    some (.submit (" disabled=\x7bisSubmitting\x7d>".toList.isSuffixOf cs))
  else if "<Link ".toList.isPrefixOf cs then some .link
  else if "\x7berror && <p ".toList.isPrefixOf cs then some .error
  else none

/-- What a line is as a line of markup, whatever its indentation. -/
def useAt? (line : String) : Option Use := Use.ofChars? (line.toList.dropWhile (· = ' '))

/-- The lines of markup that may use features, in their order. -/
def uses (text : String) : List Use := (Text.sourceLines text).filterMap useAt?

/-- The line of markup that uses a feature. -/
def Feature.use : Feature → Use
  | styleType | style => .container true
  | link => .link
  | input => .input
  | textarea => .textarea
  | card => .card
  | submitting => .submit true
  | error => .error

/-! ## Outlines -/

/-- What a component is made of, whatever it says. -/
structure Outline where
  types : List InputType
  layout : Layout
  themed : Bool
  loadingState : Bool
  link : Bool
  errorDisplay : Bool
deriving DecidableEq, Repr

def Form.outline (form : Form) : Outline where
  types := form.fields.map (·.type)
  layout := form.layout
  themed := form.theme.isSome
  loadingState := form.loadingState
  link := form.link.isSome
  errorDisplay := form.errorDisplay

namespace Outline

/-- Whether a component with the outline needs a feature. -/
def asks (outline : Outline) : Feature → Bool
  | .styleType | .style => outline.themed
  | .link => outline.link
  | .input => outline.types.any (· ≠ .textarea)
  | .textarea => outline.types.any (· = .textarea)
  | .card => outline.layout = .card
  | .submitting => outline.loadingState
  | .error => outline.errorDisplay

/-- The features that a component with the outline declares. -/
def features (outline : Outline) : List Feature :=
  [.styleType, .link, .input, .textarea, .card, .style, .submitting, .error].filter outline.asks

/-- The lines of its markup that may use features. -/
def uses (outline : Outline) : List Use :=
  [.container outline.themed] ++ (if outline.layout = .card then [.card] else []) ++
    outline.types.map (fun type => if type = .textarea then .textarea else .input) ++
    [.submit outline.loadingState] ++ (if outline.link then [.link] else []) ++
    if outline.errorDisplay then [.error] else []

theorem features_eq (outline : Outline) :
    outline.features = (if outline.asks .styleType then [.styleType] else []) ++
      (if outline.asks .link then [.link] else []) ++
        (if outline.asks .input then [.input] else []) ++
          (if outline.asks .textarea then [.textarea] else []) ++
            (if outline.asks .card then [.card] else []) ++
              (if outline.asks .style then [.style] else []) ++
                (if outline.asks .submitting then [.submitting] else []) ++
                  if outline.asks .error then [.error] else [] := by
  have hcons (feature : Feature) (others : List Feature) :
      (feature :: others).filter outline.asks =
        (if outline.asks feature then [feature] else []) ++ others.filter outline.asks := by
    rw [List.filter_cons]
    split <;> rfl
  simp only [features, hcons, List.filter_nil, List.append_nil, List.append_assoc]

/-- A feature is declared exactly if it is used. -/
theorem mem_features_iff (outline : Outline) (feature : Feature) :
    feature ∈ outline.features ↔ feature.use ∈ outline.uses := by
  cases feature <;> simp [features, uses, asks, Feature.use] <;> grind

end Outline

/-! ## Uses in lines -/

theorem Use.ofChars?_eq_none {cs : List Char} (htag : cs.head? ≠ some '<')
    (hbrace : cs.head? ≠ some '\x7b') : ofChars? cs = none := by
  have hstart {opening : String} {c : Char} (ho : opening.toList.head? = some c)
      (h : opening.toList.isPrefixOf cs = true) : cs.head? = some c := by
    obtain ⟨rest, rfl⟩ := List.isPrefixOf_iff_prefix.mp h
    rw [List.head?_append, ho]
    rfl
  have hcard : cs ≠ "<Card>".toList := by
    rintro rfl
    exact htag rfl
  rw [ofChars?, if_neg fun h => htag (hstart rfl h), if_neg hcard,
    if_neg fun h => htag (hstart rfl h), if_neg fun h => htag (hstart rfl h),
    if_neg fun h => htag (hstart rfl h), if_neg fun h => htag (hstart rfl h),
    if_neg fun h => hbrace (hstart rfl h)]

/-- A line that begins neither with a tag nor with a brace uses nothing. -/
theorem useAt?_of_head {line : String} {c : Char} (h : line.toList.head? = some c)
    (hc : c ∉ [' ', '<', '\x7b']) : useAt? line = none := by
  obtain ⟨hspace, htag, hbrace⟩ : c ≠ ' ' ∧ c ≠ '<' ∧ c ≠ '\x7b' := by simpa using hc
  obtain ⟨cs, hcs⟩ : ∃ cs, line.toList = c :: cs := List.head?_eq_some_iff.mp h
  rw [useAt?, hcs, List.dropWhile_cons_of_neg (by simpa using hspace)]
  refine Use.ofChars?_eq_none ?_ ?_
  · simpa using htag
  · simpa using hbrace

/-- A text that is put between tags uses nothing, whatever it is. -/
theorem useAt?_childText (s : String) : useAt? (Quoted.childText s) = none := by
  rw [Quoted.childText]
  split
  · simp [useAt?, Use.ofChars?, Quoted.braced, Quoted.literal, Quoted.literalChars]
  · next h =>
    have hplain : ∀ c ∈ s.toList.dropWhile (· = ' '), Quoted.endsChildText c = false := by
      intro c hc
      simp only [List.any_eq_true, not_exists, not_and, Bool.not_eq_true] at h
      exact h c ((List.dropWhile_sublist _).subset hc)
    refine Use.ofChars?_eq_none (fun htag => ?_) (fun hbrace => ?_)
    · exact absurd (hplain _ (List.mem_of_mem_head? htag)) (by decide)
    · exact absurd (hplain _ (List.mem_of_mem_head? hbrace)) (by decide)

@[simp ↓] theorem useAt?_indented (depth : Nat) (t : String) :
    useAt? (Code.indented depth t) = useAt? t := by
  rw [useAt?, Code.dropWhile_indented, useAt?]

/-! ## The markup -/

theorem Field.uses_markup (field : Field) (depth : Nat) :
    field.markup.readOff useAt? depth =
      [if field.type = .textarea then .textarea else .input] := by
  have hcontrol : useAt? field.control =
      some (if field.type = .textarea then .textarea else .input) := by
    rw [control]
    cases field.type <;> simp [useAt?, Use.ofChars?]
  simp only [markup, Code.readOff_seq_cons, Code.readOff_seq_nil, Code.readOff_line,
    Code.readOff_indent, Code.readOff_block, useAt?_indented, hcontrol]
  simp [useAt?, Use.ofChars?, Quoted.braced]

theorem Button.uses_markup (button : Button) (submits loadingState : Bool) (depth : Nat) :
    (button.markup submits loadingState).readOff useAt? depth =
      if submits then [.submit loadingState] else [] := by
  have hclose : useAt? "</Button>" = none := by decide
  have hchild := useAt?_childText button.text
  cases submits with
  | false =>
    have hopening : useAt? ("<Button type=\"" ++ "button" ++ "\" variant=\"" ++
        button.variant.name ++ "\"" ++ ">") = none := by
      simp [useAt?, Use.ofChars?]
    rw [markup]
    simp only [Bool.false_and, Bool.false_eq_true, if_false, Code.readOff_block, Code.readOff_line,
      useAt?_indented, hopening, hchild, hclose]
    rfl
  | true =>
    cases loadingState with
    | false =>
      have hopening : useAt? ("<Button type=\"" ++ "submit" ++ "\" variant=\"" ++
          button.variant.name ++ "\"" ++ ">") = some (.submit false) := by
        cases button.variant <;> decide +kernel
      rw [markup]
      simp only [Bool.and_false, Bool.false_eq_true, if_false, if_true, Code.readOff_block,
        Code.readOff_line, useAt?_indented, hopening, hchild, hclose]
      rfl
    | true =>
      have hopening : useAt? ("<Button type=\"" ++ "submit" ++ "\" variant=\"" ++
          button.variant.name ++ "\"" ++ " disabled=" ++ Quoted.braced "isSubmitting" ++ ">") =
            some (.submit true) := by
        cases button.variant <;> decide +kernel
      have hbody : useAt? (Quoted.braced ("isSubmitting ? " ++ Quoted.literal submittingText ++
          " : " ++ Quoted.literal button.text)) = none := by
        simp [useAt?, Use.ofChars?, Quoted.braced]
      rw [markup]
      simp only [Bool.and_self, if_true, Code.readOff_block, Code.readOff_line, useAt?_indented,
        hopening, hbody, hclose]
      rfl

theorem Link.uses_markup (link : Link) (depth : Nat) :
    link.markup.readOff useAt? depth = [.link] := by
  simp [markup, useAt?, Use.ofChars?]

/-- A layout uses what its parts use, and the card if it is one. -/
theorem Parts.uses_arrange {parts : Parts} {fields buttons link : List Use}
    (hfields : ∀ depth, (Code.seq parts.fields).readOff useAt? depth = fields)
    (hbuttons : ∀ depth, (Code.seq parts.buttons).readOff useAt? depth = buttons)
    (hlink : ∀ depth, (parts.link.getD .empty).readOff useAt? depth = link)
    (layout : Layout) (depth : Nat) :
    (parts.arrange layout).readOff useAt? depth =
      (if layout = .card then [.card] else []) ++ fields ++ buttons ++ link := by
  have hactions (depth : Nat) :
      (Code.seq parts.actions).readOff useAt? depth = buttons ++ link := by
    simp [actions, hbuttons, hlink]
  cases layout with
  | stacked => simp [arrange, hfields, hactions, useAt?, Use.ofChars?]
  | card => simp [arrange, hfields, hactions, cardHeader, useAt?, Use.ofChars?]
  | inline =>
    rw [arrange, Code.readOff_block, Code.readOff_seq_append, hfields, hactions]
    simp [useAt?, Use.ofChars?]

namespace Form

variable {form : Form}

theorem uses_fields (fields : List Field) (depth : Nat) :
    (Code.seq (fields.map Field.markup)).readOff useAt? depth =
      (fields.map (·.type)).map fun type => if type = .textarea then .textarea else .input := by
  induction fields with
  | nil => rfl
  | cons f fs ih =>
    rw [List.map_cons, Code.readOff_seq_cons, ih, Field.uses_markup]
    rfl

/-- Among the buttons the one that submits is used, if it is there. -/
theorem uses_buttonsFrom (form : Form) (position : Nat) (buttons : List Button) (depth : Nat) :
    (Code.seq (form.buttonsFrom position buttons)).readOff useAt? depth =
      if position ≤ form.submitIndex ∧ form.submitIndex < position + buttons.length then
        [.submit form.loadingState]
      else [] := by
  induction buttons generalizing position with
  | nil =>
    rw [if_neg (by rw [List.length_nil]; omega)]
    rfl
  | cons b bs ih =>
    rw [buttonsFrom, Code.readOff_seq_cons, Button.uses_markup, ih, isSubmit, List.length_cons]
    by_cases hhere : position = form.submitIndex
    · rw [if_pos (by simpa using hhere), if_neg (by omega), if_pos (by omega), List.append_nil]
    · have hiff : (position + 1 ≤ form.submitIndex ∧
          form.submitIndex < position + 1 + bs.length) ↔
          (position ≤ form.submitIndex ∧ form.submitIndex < position + (bs.length + 1)) := by omega
      rw [if_neg (by simpa using hhere), List.nil_append, if_congr hiff rfl rfl]

theorem exists_toList_containerClass (horizontal : Option HorizontalAlign)
    (vertical : Option VerticalAlign) (width : String) :
    ∃ rest, (containerClass horizontal vertical width).toList =
      "flex flex-col ".toList ++ rest := by
  obtain ⟨first, more, hclasses⟩ : ∃ first more,
      containerClasses horizontal vertical width = "flex" :: "flex-col" :: first :: more := by
    obtain ⟨first, more, htail⟩ := List.exists_cons_of_ne_nil
      (show (horizontal.map (·.className)).toList ++ (vertical.map (·.className)).toList ++
        ["min-h-screen"] ++ Text.words width ≠ [] by simp)
    exact ⟨first, more, congrArg (fun tail => "flex" :: "flex-col" :: tail) htail⟩
  refine ⟨(" ".intercalate (first :: more)).toList, ?_⟩
  rw [containerClass, hclasses, String.intercalate_cons_cons, String.intercalate_cons_cons]
  simp

/-- The container is styled exactly if the form has a theme, whatever its class names are. -/
theorem useAt?_containerOpening (form : Form) :
    useAt? form.containerOpening = some (.container form.theme.isSome) := by
  obtain ⟨rest, hclass⟩ := exists_toList_containerClass form.horizontal form.vertical form.width
  have hopening (behind : List Char) : Use.ofChars?
      ("<div className=\"flex flex-col ".toList ++ rest ++ '\x22' :: behind) =
        some (.container (" style=\x7bthemeStyle\x7d>".toList.isSuffixOf
          ("<div className=\"flex flex-col ".toList ++ rest ++ '\x22' :: behind))) := by
    rw [Use.ofChars?, if_pos]
    rw [List.isPrefixOf_iff_prefix, List.append_assoc]
    exact List.prefix_append _ _
  have hline (style : String) : useAt? ("<div className=\"" ++
      containerClass form.horizontal form.vertical form.width ++ "\"" ++ style ++ ">") =
      some (.container (" style=\x7bthemeStyle\x7d>".toList.isSuffixOf
          ("<div className=\"flex flex-col ".toList ++ rest ++ '\x22' ::
            (style.toList ++ ['>'])))) := by
    rw [← hopening]
    simp [useAt?, hclass]
  delta containerOpening
  rw [hline]
  cases form.theme with
  | none =>
    -- the class names end with a quote, the style with a brace
    have hbare : ¬" style=\x7bthemeStyle\x7d>".toList <:+
        "<div className=\"flex flex-col ".toList ++ rest ++ '\x22' :: ("".toList ++ ['>']) := by
      rintro ⟨front, hfront⟩
      have hlast := congrArg (fun cs => cs.reverse[1]?) hfront
      simp at hlast
    rw [← List.isSuffixOf_iff_suffix, Bool.not_eq_true] at hbare
    exact congrArg (fun styled => some (Use.container styled)) hbare
  | some theme =>
    have hstyled : " style=\x7bthemeStyle\x7d>".toList <:+
        "<div className=\"flex flex-col ".toList ++ rest ++ '\x22' ::
          ((" style=" ++ Quoted.braced "themeStyle").toList ++ ['>']) :=
      ⟨"<div className=\"flex flex-col ".toList ++ rest ++ ['\x22'], by simp [Quoted.braced]⟩
    rw [← List.isSuffixOf_iff_suffix] at hstyled
    exact congrArg (fun styled => some (Use.container styled)) hstyled

theorem Valid.uses_view (h : form.Valid) (depth : Nat) :
    form.view.readOff useAt? depth = form.outline.uses := by
  have hsubmit (depth : Nat) :
      (Code.seq form.parts.buttons).readOff useAt? depth = [.submit form.loadingState] := by
    rw [parts, uses_buttonsFrom, if_pos]
    have hindex := h.submitIndex
    omega
  have hlink (depth : Nat) : (form.parts.link.getD .empty).readOff useAt? depth =
      if form.link.isSome then [.link] else [] := by
    cases hl : form.link with
    | none => simp [parts, hl]
    | some l => simp [parts, hl, Link.uses_markup]
  have hparts (depth : Nat) :=
    Parts.uses_arrange (uses_fields form.fields) hsubmit hlink form.layout depth
  have htitle : useAt? ("<h1 className=\"text-2xl font-bold mb-4\">" ++
      Quoted.childText form.name ++ "</h1>") = none := by
    simp [useAt?, Use.ofChars?]
  have hforms : useAt? ("<Form " ++ Quoted.braced "...form" ++ ">") = none ∧
      useAt? ("<form onSubmit=" ++ Quoted.braced "form.handleSubmit(onSubmit)" ++
        " className=\"space-y-8 w-full\">") = none := by
    decide +kernel
  have hclosings : useAt? "</form>" = none ∧ useAt? "</Form>" = none ∧ useAt? "</div>" = none := by
    decide
  have herror : useAt? (Quoted.braced ("error && <p className=\"text-red-500 mt-4\">" ++
      Quoted.braced "error" ++ "</p>")) = some .error := by
    decide +kernel
  have hsuccess : useAt? (Quoted.braced
      ("successMessage && <p className=\"text-green-500 mt-4\">" ++
        Quoted.braced "successMessage" ++ "</p>")) = none := by
    decide +kernel
  simp only [view, Code.readOff_block, useAt?_indented, useAt?_containerOpening,
    Code.readOff_seq_cons, Code.readOff_seq_nil, Code.readOff_line, Code.readOff_when, htitle,
    hforms, hparts, hclosings, herror, hsuccess, Option.toList_none, Option.toList_some,
    List.nil_append, List.append_nil]
  rw [Outline.uses]
  simp only [List.append_assoc]
  rfl

end Form

/-! ## Lines that are no markup -/

theorem useAt?_importLine (i : Import) : useAt? i.line = none := by
  have hhead : i.line.toList.head? = some 'i' := by cases i <;> simp [Import.line]
  exact useAt?_of_head hhead (by decide)

namespace Submission

variable (submission : Submission) (names : Naming) (depth : Nat)

theorem uses_stateHooks : submission.stateHooks.readOff useAt? depth = [] := by
  simp [stateHooks, useAt?, Use.ofChars?]

theorem uses_handler : (submission.handler names).readOff useAt? depth = [] := by
  have hcheck (depth : Nat) : submission.checkResult.readOff useAt? depth = [] := by
    simp [checkResult, useAt?, Use.ofChars?]
  have hsuccess (depth : Nat) : submission.onSuccess.readOff useAt? depth = [] := by
    simp [onSuccess, useAt?, Use.ofChars?]
  have hattempt (depth : Nat) : (submission.attempt names).readOff useAt? depth = [] := by
    cases hs : submission.strategy <;>
      simp [attempt, hs, hcheck, hsuccess, useAt?, Use.ofChars?]
  have honError (depth : Nat) : submission.onError.readOff useAt? depth = [] := by
    simp [onError, useAt?, Use.ofChars?]
  cases hl : submission.loadingState <;>
    simp [handler, hl, hattempt, honError, useAt?, Use.ofChars?]

end Submission

namespace Form

variable {form : Form}

theorem uses_componentImports (form : Form) (depth : Nat) :
    form.componentImports.readOff useAt? depth = [] := by
  simp [componentImports, Import.code, useAt?_importLine]

theorem uses_themeStyle (form : Form) (depth : Nat) :
    form.themeStyle.readOff useAt? depth = [] := by
  cases ht : form.theme <;> simp [themeStyle, ht, useAt?, Use.ofChars?]

theorem Valid.uses_defaultValues (h : form.Valid) (depth : Nat) :
    form.defaultValues.readOff useAt? depth = [] := by
  have hentry : ∀ f ∈ form.fields, useAt? (f.name ++ ": \"\",") = none := by
    intro f hf
    have hid := h.fieldNames f hf
    obtain ⟨c, cs, hname⟩ := List.exists_cons_of_ne_nil
      (show f.name.toList ≠ [] by simpa using ne_empty_of_isIdentifier hid)
    have hc : continuesIdentifier c = true :=
      continuesIdentifier_of_mem hid c (by rw [hname]; exact List.mem_cons_self)
    refine useAt?_of_head (c := c) (by rw [String.toList_append, hname]; rfl) fun hmem => ?_
    simp only [List.mem_cons, List.not_mem_nil, or_false] at hmem
    rcases hmem with rfl | rfl | rfl <;> exact absurd hc (by decide)
  rw [defaultValues, Code.readOff, Code.lines_seq, List.flatMap_map, List.filterMap_eq_nil_iff]
  intro m hm
  obtain ⟨f, hf, hm⟩ := List.mem_flatMap.mp hm
  rw [List.mem_singleton.mp hm, useAt?_indented]
  exact hentry f hf

/-- The component uses what its outline says. -/
theorem Valid.uses_component (h : form.Valid) (depth : Nat) :
    form.component.readOff useAt? depth = form.outline.uses := by
  rw [← h.uses_view (depth + 1 + 1)]
  simp [component, componentBody, uses_componentImports, uses_themeStyle,
    Submission.uses_stateHooks, Submission.uses_handler, h.uses_defaultValues, useAt?, Use.ofChars?]

end Form

/-! ## Declarations in pieces of source -/

theorem Feature.declaredAt?_line {i : Import} (h : i.WellFormed) :
    declaredAt? i.line = ofImport? i := by
  rw [declaredAt?, if_pos (startsImport_line i), Import.read?_line h, Option.bind_some]

/-- A line that is moved in twice or more declares nothing. -/
theorem Feature.declaredAt?_indented {depth : Nat} (h : 2 ≤ depth) (t : String) :
    declaredAt? (Code.indented depth t) = none := by
  obtain ⟨rest, hline⟩ : ∃ rest, (Code.indented depth t).toList = ' ' :: ' ' :: ' ' :: rest := by
    refine ⟨List.replicate (2 * depth - 3) ' ' ++ t.toList, ?_⟩
    rw [Code.toList_indented, show 2 * depth = 2 * depth - 3 + 1 + 1 + 1 by omega]
    rfl
  simp [declaredAt?, startsImport, startsWith, hline]

theorem Feature.readOff_eq_nil {depth : Nat} (h : 2 ≤ depth) (code : Code) :
    code.readOff declaredAt? depth = [] := by
  rw [Code.readOff, List.filterMap_eq_nil_iff]
  intro m hm
  exact declaredAt?_indented (h.trans (Code.le_of_mem_lines code hm)) m.2

namespace Form

variable {form : Form}

/-! ## The declarations of a component -/

theorem features_stateHooks (submission : Submission) :
    submission.stateHooks.readOff Feature.declaredAt? 1 =
      (if submission.loadingState then [.submitting] else []) ++
        if submission.errorDisplay then [.error] else [] := by
  have hlines : Feature.declaredAt? (Code.indented 1
        "const [isSubmitting, setIsSubmitting] = useState(false);") = some .submitting ∧
      Feature.declaredAt? (Code.indented 1 "const [error, setError] = useState(\"\");") =
        some .error ∧
      Feature.declaredAt? (Code.indented 1
        "const [successMessage, setSuccessMessage] = useState(\"\");") = none := by
    decide +kernel
  simp [Submission.stateHooks, hlines]

theorem features_themeStyle (form : Form) :
    form.themeStyle.readOff Feature.declaredAt? 0 =
      if form.theme.isSome then [.style] else [] := by
  cases ht : form.theme <;>
    simp [themeStyle, ht, Feature.declaredAt?, startsImport, startsWith,
      Code.toList_indented]

theorem features_componentBody (form : Form) :
    form.componentBody.readOff Feature.declaredAt? 1 =
      (if form.loadingState then [.submitting] else []) ++
        if form.errorDisplay then [.error] else [] := by
  have hhooks := features_stateHooks form.submission
  have hfixed : Feature.declaredAt? (Code.indented 1 "\x7d);") = none ∧
      Feature.declaredAt? (Code.indented 1 "\x7d;") = none ∧
      Feature.declaredAt? (Code.indented 1 "return (") = none ∧
      Feature.declaredAt? (Code.indented 1 ");") = none := by
    decide +kernel
  have hform : Feature.declaredAt? (Code.indented 1 ("const form = useForm<" ++
      form.naming.valuesType ++ ">(\x7b")) = none := by
    simp [Feature.declaredAt?, startsImport, startsWith, Code.toList_indented]
  have hsubmit : Feature.declaredAt? (Code.indented 1 ("const onSubmit = async (data: " ++
      form.naming.valuesType ++ ") => \x7b")) = none := by
    simp [Feature.declaredAt?, startsImport, startsWith, Code.toList_indented]
  simp only [componentBody, Code.readOff_seq_cons, Code.readOff_seq_nil, Code.readOff_gap,
    Code.readOff_block, Feature.readOff_eq_nil (Nat.le_refl 2), hhooks, hfixed, hform, hsubmit,
    Option.toList_none, List.append_nil]
  rfl

/-- No feature is imported from a file of the application itself. -/
theorem ofImport?_importPath (bound : List String) (names : Naming) (source target : Role) :
    Feature.ofImport? (.named bound (names.importPath source target)) = none := by
  have hdot : (names.importPath source target).toList.head? = some '.' := by
    rcases isPrefix_relativeImport (names.path source) (names.path target) with
      ⟨rest, hrest⟩ | ⟨rest, hrest⟩ <;> rw [Naming.importPath, ← hrest] <;> rfl
  have hmodules : ∀ entry ∈ Feature.imported, entry.2.2.toList.head? ≠ some '.' := by decide
  rw [Feature.ofImport?, Option.map_eq_none_iff, List.find?_eq_none]
  intro entry hentry hfound
  obtain ⟨-, hsource⟩ := of_decide_eq_true hfound
  rw [Import.source] at hsource
  exact hmodules entry hentry (hsource ▸ hdot)

theorem features_packageImports (form : Form) :
    form.packageImports.filterMap Feature.ofImport? =
      (if form.theme.isSome then [.styleType] else []) ++
        if form.link.isSome then [.link] else [] := by
  rw [packageImports]
  generalize form.theme.isSome = themed
  generalize form.link.isSome = linked
  cases themed <;> cases linked <;> decide +kernel

theorem features_libraryImports (form : Form) :
    form.libraryImports.filterMap Feature.ofImport? =
      (if form.hasSingleLineInput then [.input] else []) ++
        (if form.hasTextarea then [.textarea] else []) ++
          if form.layout = .card then [.card] else [] := by
  have hlibrary :
      Feature.ofImport? (.named ["Button"] (libraryModule "button")) = none ∧
      Feature.ofImport? (.named ["Input"] (libraryModule "input")) = some .input ∧
      Feature.ofImport? (.named ["Textarea"] (libraryModule "textarea")) = some .textarea ∧
      Feature.ofImport? (.named ["Form", "FormControl", "FormField", "FormItem", "FormLabel",
        "FormMessage"] (libraryModule "form")) = none ∧
      Feature.ofImport? (.named ["Card", "CardContent", "CardDescription", "CardFooter",
        "CardHeader", "CardTitle"] (libraryModule "card")) = some .card := by
    decide +kernel
  simp [libraryImports, List.filterMap_append, hlibrary,
    apply_ite (List.filterMap Feature.ofImport?)]

theorem Valid.features_componentImports (h : form.Valid) :
    form.componentImports.readOff Feature.declaredAt? 0 =
      (form.imports .component).filterMap Feature.ofImport? := by
  have hlines : form.componentImports.lines 0 =
      (form.imports .component).map fun i => (0, i.line) := by
    simp [componentImports, imports, packageImports, libraryImports, Import.code,
      apply_ite (List.map fun i : Import => (0, i.line))]
  rw [Code.readOff, hlines, List.filterMap_map]
  refine List.filterMap_congr fun i hi => ?_
  rw [Function.comp_apply, Code.indented_zero,
    Feature.declaredAt?_line (h.links_imports .component i hi).1]

theorem features_imports (form : Form) :
    (form.imports .component).filterMap Feature.ofImport? =
      form.packageImports.filterMap Feature.ofImport? ++
        form.libraryImports.filterMap Feature.ofImport? := by
  have haction := ofImport?_importPath [form.naming.actionSymbol] form.naming
  rw [imports, List.filterMap_append, List.filterMap_append, Naming.schemaImport,
    List.filterMap_cons_none (ofImport?_importPath _ _ _ _)]
  cases form.serverAction <;> simp [haction]

/-- The component declares what its outline says. -/
theorem Valid.features_component (h : form.Valid) :
    form.component.readOff Feature.declaredAt? 0 = form.outline.features := by
  have hdirective : Feature.declaredAt? (Code.indented 0 "'use client';") = none := by
    decide +kernel
  have hopening : Feature.declaredAt? (Code.indented 0 ("export default function " ++
      form.naming.componentSymbol ++ "() \x7b")) = none := by
    simp [Feature.declaredAt?, startsImport, startsWith]
  have hclosing : Feature.declaredAt? (Code.indented 0 "\x7d") = none := by
    decide +kernel
  simp only [component, Code.readOff_seq_cons, Code.readOff_seq_nil, Code.readOff_line,
    Code.readOff_gap, Code.readOff_block, hdirective, hopening, hclosing,
    h.features_componentImports, features_imports, features_packageImports,
    features_libraryImports, features_themeStyle, Nat.zero_add, features_componentBody,
    Option.toList_none, List.nil_append, List.append_nil]
  have hinput : form.hasSingleLineInput = form.outline.asks .input := by
    simp [hasSingleLineInput, outline, Outline.asks, List.any_map, Function.comp_def]
  have htextarea : form.hasTextarea = form.outline.asks .textarea := by
    simp [hasTextarea, outline, Outline.asks, List.any_map, Function.comp_def]
  have hcard : (if form.layout = .card then [Feature.card] else []) =
      if form.outline.asks .card then [Feature.card] else [] :=
    if_congr (decide_eq_true_iff (p := form.outline.layout = .card)).symm rfl rfl
  rw [Outline.features_eq, hinput, htextarea, hcard]
  simp only [List.append_assoc]
  rfl

/-! ## The component artifact -/

theorem Valid.features_contents (h : form.Valid) :
    declaredFeatures (form.contents .component) = form.outline.features ∧
      uses (form.contents .component) = form.outline.uses := by
  have hfree : form.component.FeedFree := h.turns_component.2
  rw [form.contents_eq_render (by decide), code, declaredFeatures, uses,
    Code.filterMap_sourceLines hfree (by decide +kernel), Code.filterMap_sourceLines hfree rfl]
  exact ⟨h.features_component, h.uses_component 0⟩

/-- The component of a form declares what its outline asks for, and its markup uses just this: a
name is declared exactly if a line of the markup uses it, and there is one container and one button
that submits.  A form with the same outline has the same declarations and uses, whatever its labels,
texts and messages are. -/
theorem features_of_generate {artifacts : List Artifact} (h : form.generate = .ok artifacts) :
    (∃ a ∈ artifacts, a.role = .component) ∧
    ∀ a ∈ artifacts, a.role = .component →
      declaredFeatures a.contents = form.outline.features ∧
        uses a.contents = form.outline.uses ∧
        (∀ feature : Feature,
          feature ∈ declaredFeatures a.contents ↔ feature.use ∈ uses a.contents) ∧
        ∀ (other : Form) (others : List Artifact), other.generate = .ok others →
          other.outline = form.outline → ∀ b ∈ others, b.role = .component →
            declaredFeatures b.contents = declaredFeatures a.contents ∧
              uses b.contents = uses a.contents := by
  obtain ⟨hvalid, rfl⟩ := valid_of_generate h
  refine ⟨⟨form.artifact .component, List.mem_map_of_mem (by simp [roles]), rfl⟩, ?_⟩
  rintro a ha hrole
  obtain ⟨role, -, rfl⟩ := List.mem_map.mp ha
  obtain rfl : role = .component := hrole
  obtain ⟨hfeatures, huses⟩ := hvalid.features_contents
  refine ⟨hfeatures, huses, fun feature => ?_,
    fun other others hother houtline b hb hcomponent => ?_⟩
  · rw [artifact, hfeatures, huses]
    exact form.outline.mem_features_iff feature
  · obtain ⟨hvalid', rfl⟩ := valid_of_generate hother
    obtain ⟨role, -, rfl⟩ := List.mem_map.mp hb
    obtain rfl : role = .component := hcomponent
    obtain ⟨hfeatures', huses'⟩ := hvalid'.features_contents
    rw [artifact, artifact, hfeatures, huses, hfeatures', huses', houtline]
    exact ⟨rfl, rfl⟩

/-- A form in a theme with a single-line field and a link. -/
def linkingForm : Form :=
  { named "contact" with
    fields := [.named "email" .email]
    buttons := [{ text := "Send", variant := .default }]
    theme := some { primary := "#123456", secondary := "#abcdef" }
    link := some { text := "Back", target := "/" } }

/-- The same with texts that look like declarations and like markup. -/
def disguisedForm : Form :=
  { linkingForm with
    fields :=
      [{ name := "email", label := "<Textarea ", placeholder := "<Card>", type := .email,
         rules := "", message := some "import \x7b Card \x7d from '@/components/ui/card';" }]
    buttons := [{ text := "<Button type=\"submit\">", variant := .default }]
    successMessage := "const [error, setError] = useState(\"\");"
    errorMessage := "\x7berror && <p "
    link := some { text := "<Input ", target := "<div className=\"\">" } }

theorem features_of_generate_disguisedForm :
    linkingForm.generate = .ok linkingForm.artifacts ∧
      disguisedForm.generate = .ok disguisedForm.artifacts ∧
      ∃ a ∈ linkingForm.artifacts, ∃ b ∈ disguisedForm.artifacts,
        a.role = .component ∧ b.role = .component ∧
          declaredFeatures b.contents =
            [.styleType, .link, .input, .style, .submitting, .error] ∧
          uses b.contents = [.container true, .input, .submit true, .link, .error] ∧
          declaredFeatures a.contents = declaredFeatures b.contents ∧
          uses a.contents = uses b.contents := by
  have hlinking : linkingForm.generate = .ok linkingForm.artifacts :=
    generate_of_valid (by decide) (by decide)
  have hdisguised : disguisedForm.generate = .ok disguisedForm.artifacts :=
    generate_of_valid (by decide) (by decide)
  obtain ⟨a, ha, hrole⟩ := (features_of_generate hlinking).1
  obtain ⟨⟨b, hb, hrole'⟩, hall⟩ := features_of_generate hdisguised
  obtain ⟨hfeatures, huses, -, hsame⟩ := hall b hb hrole'
  have houtline : linkingForm.outline = disguisedForm.outline := by decide
  obtain ⟨hdeclared, hused⟩ := hsame linkingForm _ hlinking houtline a ha hrole
  refine ⟨hlinking, hdisguised, a, ha, b, hb, hrole, hrole', ?_⟩
  rw [hdeclared, hused, hfeatures, huses]
  exact ⟨by decide, by decide, rfl, rfl⟩

end Form

end FormScaffold
