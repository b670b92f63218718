import FormScaffold.Proofs.Artifact.Modules

/-!
# Closed references

What one artifact refers to is there: a relative import leads to an artifact that exports what is
imported, the component imports the server action exactly when there is one, and the address to
which it posts is that of an API route (`Form.references_closed`).
-/

namespace FormScaffold

/-! ## Requests to an address -/

/-- How a request to an address begins. -/
def fetchOpening : String := "const response = await fetch(\x22"

/-- Whether a line, wherever it stands, begins a request. -/
def IsFetch (t : String) : Prop := fetchOpening.toList <+: t.toList.dropWhile (· = ' ')

theorem IsFetch.quote_mem {t : String} (h : IsFetch t) : '\x22' ∈ t.toList :=
  (List.dropWhile_suffix _).subset (List.IsPrefix.subset h (by decide))

theorem not_isFetch_line (i : Import) : ¬IsFetch i.line := by
  cases i <;> simp [IsFetch, fetchOpening, Import.line]

/-- A text on a line of its own begins no request: with a quote it stands in braces. -/
theorem not_isFetch_childText (s : String) : ¬IsFetch (Quoted.childText s) := by
  rw [Quoted.childText]
  split
  · simp [IsFetch, fetchOpening, Quoted.braced]
  · next h =>
    intro hfetch
    refine h (List.any_eq_true.mpr ⟨'\x22', hfetch.quote_mem, by decide⟩)

/-- A key of an object begins no request. -/
theorem not_isFetch_key {name : String} (h : isIdentifier name = true) :
    ¬IsFetch (name ++ ": \"\",") := by
  have hword := continuesIdentifier_of_mem h
  have hne : name.toList ≠ [] := by simpa using ne_empty_of_isIdentifier h
  have hkeep : (name ++ ": \"\",").toList.dropWhile (· = ' ') = name.toList ++ ": \"\",".toList := by
    rw [String.toList_append]
    cases hname : name.toList with
    | nil => exact absurd hname hne
    | cons c cs =>
      have hc : continuesIdentifier c = true := hword c (by simp [hname])
      have hspace : c ≠ ' ' := by
        rintro rfl
        exact absurd hc (by decide)
      rw [List.cons_append, List.dropWhile_cons_of_neg (by simpa using hspace)]
  rw [IsFetch, hkeep]
  rintro ⟨rest, hrest⟩
  rcases List.append_eq_append_iff.mp hrest with ⟨mid, hname, -⟩ | ⟨mid, hopening, htail⟩
  · exact absurd (hword ' ' (by rw [hname]; exact List.mem_append_left _ (by decide))) (by decide)
  · cases mid with
    | nil =>
      rw [List.append_nil] at hopening
      exact absurd (hword ' ' (by rw [← hopening]; decide)) (by decide)
    | cons c mid =>
      obtain rfl : ':' = c := (List.cons.inj htail).1
      have hmem : ':' ∈ fetchOpening.toList := by
        rw [hopening]
        exact List.mem_append_right _ List.mem_cons_self
      exact absurd hmem (by decide)

theorem Field.not_isFetch (field : Field) : ∀ t ∈ field.markup.texts, ¬IsFetch t := by
  have hcontrol : ¬IsFetch field.control := by
    rw [control]
    split <;> simp [IsFetch, fetchOpening]
  simp only [markup, Code.texts_seq_cons, Code.texts_seq_nil, Code.texts_line, Code.texts_indent,
    Code.texts_block, List.forall_mem_append, List.forall_mem_cons, hcontrol]
  simp [IsFetch, fetchOpening]

theorem Button.not_isFetch (button : Button) (submits loadingState : Bool) :
    ∀ t ∈ (button.markup submits loadingState).texts, ¬IsFetch t := by
  rw [markup]
  split
  · simp [IsFetch, fetchOpening, Quoted.braced]
  · simp only [Code.texts_block, Code.texts_line, List.forall_mem_append, List.forall_mem_cons,
      not_isFetch_childText]
    simp [IsFetch, fetchOpening]

theorem Link.not_isFetch (link : Link) : ∀ t ∈ link.markup.texts, ¬IsFetch t := by
  simp [markup, IsFetch, fetchOpening]

theorem Parts.not_isFetch {parts : Parts} (hfields : ∀ f ∈ parts.fields, ∀ t ∈ f.texts, ¬IsFetch t)
    (hbuttons : ∀ b ∈ parts.buttons, ∀ t ∈ b.texts, ¬IsFetch t)
    (hlink : ∀ l ∈ parts.link, ∀ t ∈ l.texts, ¬IsFetch t) (layout : Layout) :
    ∀ t ∈ (parts.arrange layout).texts, ¬IsFetch t := by
  have hseqFields : ∀ t ∈ (Code.seq parts.fields).texts, ¬IsFetch t := by
    intro t ht
    rw [Code.texts_seq] at ht
    obtain ⟨f, hf, ht⟩ := List.mem_flatMap.mp ht
    exact hfields f hf t ht
  have hseqActions : ∀ t ∈ (Code.seq parts.actions).texts, ¬IsFetch t := by
    intro t ht
    rw [Code.texts_seq] at ht
    obtain ⟨a, ha, ht⟩ := List.mem_flatMap.mp ht
    rcases List.mem_append.mp ha with ha | ha
    · exact hbuttons a ha t ht
    · rw [List.mem_singleton.mp ha] at ht
      cases h : parts.link with
      | none => simp [h] at ht
      | some l =>
        rw [h] at ht
        exact hlink l h t ht
  cases layout with
  | stacked =>
    simp only [arrange, Code.texts_block, Code.texts_seq_append, Code.texts_seq_cons,
      Code.texts_seq_nil, List.forall_mem_append, List.forall_mem_cons]
    refine ⟨?_, ⟨hseqFields, ⟨?_, hseqActions, ?_⟩, ?_⟩, ?_⟩ <;> simp [IsFetch, fetchOpening]
  | card =>
    have hheader : ∀ t ∈ parts.cardHeader.texts, ¬IsFetch t := by
      simp [cardHeader, IsFetch, fetchOpening]
    simp only [arrange, Code.texts_block, Code.texts_seq_cons, Code.texts_seq_nil,
      List.forall_mem_append, List.forall_mem_cons]
    refine ⟨?_, ⟨hheader, ⟨?_, hseqFields, ?_⟩, ⟨?_, hseqActions, ?_⟩, ?_⟩, ?_⟩ <;>
      simp [IsFetch, fetchOpening]
  | inline =>
    simp only [arrange, Code.texts_block, Code.texts_seq_append, List.forall_mem_append,
      List.forall_mem_cons]
    refine ⟨?_, ⟨hseqFields, hseqActions⟩, ?_⟩ <;> simp [IsFetch, fetchOpening]

/-! ## The request of the component -/

namespace Submission

variable (submission : Submission) (names : Naming)

theorem not_isFetch_stateHooks : ∀ t ∈ submission.stateHooks.texts, ¬IsFetch t := by
  simp only [stateHooks, Code.texts_seq_cons, Code.texts_seq_nil, Code.texts_when, Code.texts_line,
    List.forall_mem_append]
  refine ⟨?_, ?_, ?_⟩
  · split <;> simp [IsFetch, fetchOpening]
  · split <;> simp [IsFetch, fetchOpening]
  · simp [IsFetch, fetchOpening]

theorem not_isFetch_onSuccess : ∀ t ∈ submission.onSuccess.texts, ¬IsFetch t := by
  simp [onSuccess, IsFetch, fetchOpening]

theorem not_isFetch_checkResult : ∀ t ∈ submission.checkResult.texts, ¬IsFetch t := by
  simp [checkResult, IsFetch, fetchOpening]

theorem not_isFetch_onError : ∀ t ∈ submission.onError.texts, ¬IsFetch t := by
  simp only [onError, Code.texts_seq_cons, Code.texts_seq_nil, Code.texts_when, Code.texts_line,
    List.forall_mem_append]
  refine ⟨?_, ?_, ?_⟩
  · simp [IsFetch, fetchOpening]
  · split <;> simp [IsFetch, fetchOpening]
  · simp

/-- The line that begins the request, if data goes to the API route. -/
def IsRequest (t : String) : Prop :=
  submission.strategy = .apiRoute ∧
    t = "const response = await fetch(" ++ Quoted.literal names.routeUrl ++ ", \x7b"

theorem isRequest_of_mem_attempt {t : String} (ht : t ∈ (submission.attempt names).texts)
    (hfetch : IsFetch t) : submission.IsRequest names t := by
  have hsuccess := submission.not_isFetch_onSuccess t
  have hcheck := submission.not_isFetch_checkResult t
  cases hstrategy : submission.strategy with
  | serverAction =>
    simp only [attempt, hstrategy, Code.texts_seq_cons, Code.texts_seq_nil, Code.texts_line,
      List.mem_append, List.mem_singleton, List.not_mem_nil, or_false] at ht
    rcases ht with rfl | ht | ht
    · exact absurd hfetch (by simp [IsFetch, fetchOpening])
    · exact absurd hfetch (hcheck ht)
    · exact absurd hfetch (hsuccess ht)
  | apiRoute =>
    simp only [attempt, hstrategy, Code.texts_seq_cons, Code.texts_seq_nil, Code.texts_line,
      Code.texts_block, List.mem_append, List.mem_cons, List.not_mem_nil, or_false] at ht
    rcases ht with (rfl | (rfl | rfl | rfl) | rfl) | rfl | ht | ht
    · exact ⟨hstrategy, rfl⟩
    · exact absurd hfetch (by simp [IsFetch, fetchOpening])
    · exact absurd hfetch (by simp [IsFetch, fetchOpening])
    · exact absurd hfetch (by simp [IsFetch, fetchOpening])
    · exact absurd hfetch (by simp [IsFetch, fetchOpening])
    · exact absurd hfetch (by simp [IsFetch, fetchOpening])
    · exact absurd hfetch (hcheck ht)
    · exact absurd hfetch (hsuccess ht)
  | console =>
    simp only [attempt, hstrategy, Code.texts_seq_cons, Code.texts_seq_nil, Code.texts_line,
      List.mem_append, List.mem_singleton, List.not_mem_nil, or_false] at ht
    rcases ht with rfl | ht
    · exact absurd hfetch (by simp [IsFetch, fetchOpening])
    · exact absurd hfetch (hsuccess ht)

theorem isRequest_of_mem_handler {t : String} (ht : t ∈ (submission.handler names).texts)
    (hfetch : IsFetch t) : submission.IsRequest names t := by
  simp only [handler, Code.texts_seq_cons, Code.texts_seq_nil, Code.texts_line, Code.texts_block,
    Code.texts_when, Code.texts_indent, List.mem_append, List.mem_cons, List.not_mem_nil,
    or_false] at ht
  rcases ht with ht | ht | rfl | (rfl | ht | rfl) | ht | ht
  · split at ht
    · rw [List.mem_singleton.mp ht] at hfetch
      exact absurd hfetch (by simp [IsFetch, fetchOpening])
    · exact absurd ht List.not_mem_nil
  · split at ht
    · rw [List.mem_singleton.mp ht] at hfetch
      exact absurd hfetch (by simp [IsFetch, fetchOpening])
    · exact absurd ht List.not_mem_nil
  · exact absurd hfetch (by simp [IsFetch, fetchOpening])
  · exact absurd hfetch (by simp [IsFetch, fetchOpening])
  · exact submission.isRequest_of_mem_attempt names ht hfetch
  · exact absurd hfetch (by simp [IsFetch, fetchOpening])
  · exact absurd hfetch (submission.not_isFetch_onError t ht)
  · refine absurd hfetch ?_
    clear hfetch
    revert t
    split <;> simp [IsFetch, fetchOpening]

end Submission

namespace Form

variable {form : Form}

theorem not_isFetch_componentImports (form : Form) :
    ∀ t ∈ form.componentImports.texts, ¬IsFetch t := by
  intro t ht
  have hline : ∃ i : Import, t = i.line := by
    simp only [componentImports, Code.texts_seq_cons, Code.texts_seq_nil, Code.texts_when,
      Import.code, Code.texts_line, List.mem_append, List.mem_singleton, List.mem_ite_nil_right,
      List.not_mem_nil, or_false] at ht
    rcases ht with ht | ht | ht | ht | ⟨-, ht⟩ | ht | ⟨-, ht⟩ | ⟨-, ht⟩ | ht | ⟨-, ht⟩ | ht | ⟨-, ht⟩
    all_goals exact ⟨_, ht⟩
  obtain ⟨i, rfl⟩ := hline
  exact not_isFetch_line i

theorem not_isFetch_themeStyle (form : Form) : ∀ t ∈ form.themeStyle.texts, ¬IsFetch t := by
  rw [themeStyle]
  split <;> simp [IsFetch, fetchOpening]

theorem not_isFetch_of_mem_buttonsFrom (form : Form) {position : Nat} {buttons : List Button}
    {code : Code} (h : code ∈ form.buttonsFrom position buttons) : ∀ t ∈ code.texts, ¬IsFetch t := by
  induction buttons generalizing position with
  | nil => exact absurd h List.not_mem_nil
  | cons b bs ih =>
    rcases List.mem_cons.mp h with rfl | h
    · exact b.not_isFetch _ _
    · exact ih h

theorem not_isFetch_view (form : Form) : ∀ t ∈ form.view.texts, ¬IsFetch t := by
  have hparts : ∀ t ∈ (form.parts.arrange form.layout).texts, ¬IsFetch t := by
    refine Parts.not_isFetch (fun f hf => ?_) (fun b hb => form.not_isFetch_of_mem_buttonsFrom hb)
      (fun l hl => ?_) _
    · obtain ⟨field, -, rfl⟩ := List.mem_map.mp hf
      exact field.not_isFetch
    · obtain ⟨link, -, rfl⟩ := Option.map_eq_some_iff.mp hl
      exact link.not_isFetch
  have hopening : ¬IsFetch form.containerOpening := by
    delta containerOpening
    simp [IsFetch, fetchOpening]
  simp only [view, Code.texts_block, Code.texts_seq_cons, Code.texts_seq_nil,
    Code.texts_line, Code.texts_when, List.forall_mem_append, List.forall_mem_cons]
  refine ⟨hopening, ⟨?_, ⟨?_, ⟨?_, hparts, ?_⟩, ?_⟩, ?_, ?_⟩, ?_⟩
  case refine_6 => split <;> simp [IsFetch, fetchOpening, Quoted.braced]
  all_goals simp [IsFetch, fetchOpening, Quoted.braced]

/-- The component begins a request on one line at most: the one that posts to the API route. -/
theorem Valid.isRequest_of_mem_component (h : form.Valid) {t : String}
    (ht : t ∈ form.component.texts) (hfetch : IsFetch t) :
    form.submission.IsRequest form.naming t := by
  have hdefaults : ∀ t ∈ form.defaultValues.texts, ¬IsFetch t := by
    intro t ht
    rw [defaultValues, Code.texts_seq] at ht
    obtain ⟨code, hcode, ht⟩ := List.mem_flatMap.mp ht
    obtain ⟨f, hf, rfl⟩ := List.mem_map.mp hcode
    rw [List.mem_singleton.mp ht]
    exact not_isFetch_key (h.fieldNames f hf)
  simp only [component, componentBody, Code.texts_block, Code.texts_seq_cons, Code.texts_seq_nil,
    Code.texts_line, Code.texts_gap, List.mem_append, List.mem_cons, List.not_mem_nil, or_false,
    false_or] at ht
  rcases ht with rfl | ht | ht | rfl | (ht | (rfl | (rfl | rfl | ht | rfl) | rfl) |
    (rfl | ht | rfl) | rfl | ht | rfl) | rfl
  · exact absurd hfetch (by simp [IsFetch, fetchOpening])
  · exact absurd hfetch (form.not_isFetch_componentImports t ht)
  · exact absurd hfetch (form.not_isFetch_themeStyle t ht)
  · exact absurd hfetch (by simp [IsFetch, fetchOpening])
  · exact absurd hfetch (form.submission.not_isFetch_stateHooks t ht)
  · exact absurd hfetch (by simp [IsFetch, fetchOpening])
  · exact absurd hfetch (by simp [IsFetch, fetchOpening])
  · exact absurd hfetch (by simp [IsFetch, fetchOpening])
  · exact absurd hfetch (hdefaults t ht)
  · exact absurd hfetch (by simp [IsFetch, fetchOpening])
  · exact absurd hfetch (by simp [IsFetch, fetchOpening])
  · exact absurd hfetch (by simp [IsFetch, fetchOpening])
  · exact form.submission.isRequest_of_mem_handler form.naming ht hfetch
  · exact absurd hfetch (by simp [IsFetch, fetchOpening])
  · exact absurd hfetch (by simp [IsFetch, fetchOpening])
  · exact absurd hfetch (form.not_isFetch_view t ht)
  · exact absurd hfetch (by simp [IsFetch, fetchOpening])
  · exact absurd hfetch (by simp [IsFetch, fetchOpening])

end Form

/-! ## Addresses -/

/-- What stands before the only quote of a text is what ends with that quote. -/
theorem eq_of_isPrefix_quote {as bs cs : List Char} {q : Char} (hb : q ∉ bs) (hc : q ∉ cs)
    (h : as ++ [q] <+: bs ++ q :: cs) : as = bs := by
  obtain ⟨rest, hrest⟩ := h
  rw [List.append_assoc, List.singleton_append] at hrest
  rcases List.append_eq_append_iff.mp hrest with ⟨mid, hbs, hmid⟩ | ⟨mid, has, hmid⟩
  · cases mid with
    | nil => rw [hbs, List.append_nil]
    | cons d mid =>
      obtain rfl : q = d := (List.cons.inj hmid).1
      exact absurd (by rw [hbs]; simp) hb
  · cases mid with
    | nil => rw [has, List.append_nil]
    | cons d mid =>
      obtain ⟨rfl, hcs⟩ := List.cons.inj hmid
      exact absurd (by rw [hcs]; simp) hc

namespace Form

variable {form : Form}

/-- The address to which the component posts. -/
theorem Valid.eq_routeUrl (h : form.Valid) {l url : String}
    (hl : l ∈ Text.sourceLines form.component.render)
    (hfetch : (fetchOpening ++ url ++ "\x22").toList <+: l.toList.dropWhile (· = ' ')) :
    form.strategy = .apiRoute ∧ url = form.naming.routeUrl := by
  have hne : l ≠ "" := by
    rintro rfl
    simp [fetchOpening] at hfetch
  obtain ⟨m, hm, rfl⟩ := (Code.mem_sourceLines_render h.turns_component.2 hne).mp hl
  rw [Code.dropWhile_indented] at hfetch
  have hopening : IsFetch m.2 := by
    refine List.IsPrefix.trans ?_ hfetch
    rw [String.append_assoc, String.toList_append]
    exact List.prefix_append _ _
  obtain ⟨hstrategy, hline⟩ := h.isRequest_of_mem_component (Code.mem_texts_of_mem_lines hm) hopening
  refine ⟨hstrategy, String.toList_injective ?_⟩
  have hquote : '\x22' ∉ form.naming.routeUrl.toList := fun hc =>
    absurd (h.escape_routeUrl _ hc) (by decide)
  have htext : m.2.toList.dropWhile (· = ' ') = fetchOpening.toList ++
      (form.naming.routeUrl.toList ++ '\x22' :: ", \x7b".toList) := by
    rw [hline, String.toList_append, String.toList_append, Quoted.toList_literal h.escape_routeUrl]
    simp [fetchOpening]
  rw [htext, String.append_assoc, String.toList_append, List.prefix_append_right_inj,
    String.toList_append] at hfetch
  exact eq_of_isPrefix_quote hquote (by decide) hfetch

theorem path_apiRoute (form : Form) :
    form.naming.path .apiRoute =
      match form.routing with
      | .app => "app" ++ form.naming.routeUrl ++ "/route.ts"
      | .pages => "pages" ++ form.naming.routeUrl ++ ".ts" := by
  apply String.toList_injective
  cases h : form.routing with
  | app => simp [Naming.path, Naming.routeUrl, naming, h]
  | pages => simp [Naming.path, Naming.routeUrl, naming, h]

/-! ## All references -/

/-- An unindented import line of an artifact is one of its imports. -/
theorem Valid.mem_imports (h : form.Valid) {role : Role} {l : String}
    (hl : l ∈ Text.sourceLines (form.contents role)) (himport : startsImport l = true) :
    ∃ i ∈ form.imports role, l = i.line := by
  by_cases hrole : role = .snapshot
  · subst hrole
    have hstart := (Snapshot.written_toJson (Snapshot.ofForm form).stamped).noLineStarts_toText
    have hhead : l.toList.head? = some 'i' := by
      obtain ⟨rest, hrest⟩ := List.isPrefixOf_iff_prefix.mp himport
      rw [← hrest]
      rfl
    exact absurd hhead (hstart.head?_ne hl)
  · rw [form.contents_eq_render hrole] at hl
    have hmem : l ∈ (form.code role).importLines :=
      (Code.mem_importLines_iff (h.turns_code role).2).mpr ⟨hl, himport⟩
    rw [importLines_code] at hmem
    obtain ⟨i, hi, rfl⟩ := List.mem_map.mp hmem
    exact ⟨i, hi, rfl⟩

theorem Valid.mem_sourceLines_contents (h : form.Valid) {role : Role} {l : String}
    (hl : l ∈ (form.code role).topTexts) (hne : l ≠ "") :
    l ∈ Text.sourceLines (form.contents role) := by
  have hrole : role ≠ .snapshot := by
    rintro rfl
    exact absurd hl List.not_mem_nil
  rw [form.contents_eq_render hrole, Code.mem_sourceLines_render (h.turns_code role).2 hne]
  obtain ⟨m, hm, rfl⟩ := List.mem_map.mp hl
  obtain ⟨hm, hzero⟩ := List.mem_filter.mp hm
  have hzero : m.1 = 0 := by simpa using hzero
  exact ⟨m, hm, by rw [hzero, Code.indented_zero]⟩

/-- The import lines of an artifact's text are all of its imports. -/
theorem Valid.line_mem_sourceLines (h : form.Valid) {role : Role} (hrole : role ≠ .snapshot)
    {i : Import} (hi : i ∈ form.imports role) : i.line ∈ Text.sourceLines (form.contents role) := by
  have hmem : i.line ∈ (form.code role).importLines := by
    rw [importLines_code]
    exact List.mem_map_of_mem hi
  rw [form.contents_eq_render hrole]
  exact ((Code.mem_importLines_iff (h.turns_code role).2).mp hmem).1

/-- The component imports the server action only when there is one. -/
theorem serverAction_of_mem_names {i : Import}
    (hi : i ∈ form.imports .component) (hname : form.naming.actionSymbol ∈ i.names) :
    form.serverAction = true := by
  have hsuffix : "Action".toList <:+ form.naming.actionSymbol.toList :=
    ⟨form.name.toList, by simp [Naming.actionSymbol, naming]⟩
  rcases List.mem_append.mp hi with hi | hi
  · rcases List.mem_append.mp hi with hi | hi
    · exact absurd hsuffix ((form.isExternal_packageImports i hi).2.2 _ hname)
    · exact absurd hsuffix ((form.isExternal_libraryImports i hi).2.2 _ hname)
  · rcases List.mem_cons.mp hi with rfl | hi
    · have hsymbol : form.name ++ "Action" = form.name ++ "Schema" := List.mem_singleton.mp hname
      rw [String.append_right_inj] at hsymbol
      exact absurd hsymbol (by decide)
    · exact (List.mem_ite_nil_right.mp hi).1

theorem mem_roles_serverAction : Role.serverAction ∈ form.roles ↔ form.serverAction = true := by
  simp [roles]

/-- References between artifacts are closed.  Every unindented import line is read as an import,
and a relative one leads to an artifact with an unindented line for every name that is imported.
The component imports the server action exactly when there is one.  A request of the component
goes to an address at which there is an API route. -/
theorem references_closed {artifacts : List Artifact} (h : form.generate = .ok artifacts) :
    (∀ a ∈ artifacts, ∀ l ∈ Text.sourceLines a.contents, startsImport l = true →
      ∃ i, Import.read? l = some i ∧ (i.source.toList.head? = some '.' →
        ∃ b ∈ artifacts, resolveImport a.path i.source = some (moduleSegments b.path) ∧
          i.ExportedBy (Text.sourceLines b.contents))) ∧
    (∀ a ∈ artifacts, a.role = .component →
      ((∃ l ∈ Text.sourceLines a.contents, startsImport l = true ∧
        ∃ i, Import.read? l = some i ∧ form.naming.actionSymbol ∈ i.names) ↔
          ∃ b ∈ artifacts, b.role = .serverAction)) ∧
    (∀ a ∈ artifacts, a.role = .component → ∀ l ∈ Text.sourceLines a.contents, ∀ url,
      (fetchOpening ++ url ++ "\x22").toList <+: l.toList.dropWhile (· = ' ') →
        ∃ b ∈ artifacts, b.role = .apiRoute ∧ b.path =
          match form.routing with
          | .app => "app" ++ url ++ "/route.ts"
          | .pages => "pages" ++ url ++ ".ts") := by
  obtain ⟨hvalid, rfl⟩ := valid_of_generate h
  refine ⟨?_, ?_, ?_⟩
  · rintro a ha l hl himport
    obtain ⟨role, -, rfl⟩ := List.mem_map.mp ha
    obtain ⟨i, hi, rfl⟩ := hvalid.mem_imports hl himport
    obtain ⟨hwell, htarget⟩ := hvalid.links_imports role i hi
    refine ⟨i, Import.read?_line hwell, fun hdot => ?_⟩
    obtain ⟨target, hmem, hsource, hexports⟩ := htarget hdot
    refine ⟨form.artifact target, List.mem_map_of_mem hmem, ?_, ?_⟩
    · rw [hsource]
      exact Naming.resolveImport_importPath hvalid.name role target
    · exact hexports.mono fun l hl hne => hvalid.mem_sourceLines_contents hl hne
  · rintro a ha hrole
    obtain ⟨role, -, rfl⟩ := List.mem_map.mp ha
    obtain rfl : role = .component := hrole
    constructor
    · rintro ⟨l, hl, himport, j, hread, hname⟩
      obtain ⟨i, hi, rfl⟩ := hvalid.mem_imports hl himport
      rw [Import.read?_line (hvalid.links_imports _ i hi).1, Option.some.injEq] at hread
      subst hread
      have haction := serverAction_of_mem_names hi hname
      exact ⟨form.artifact .serverAction,
        List.mem_map_of_mem (mem_roles_serverAction.mpr haction), rfl⟩
    · rintro ⟨b, hb, hrole⟩
      obtain ⟨role, hmem, rfl⟩ := List.mem_map.mp hb
      obtain rfl : role = .serverAction := hrole
      have haction := mem_roles_serverAction.mp hmem
      have hi : Import.named [form.naming.actionSymbol]
          (form.naming.importPath .component .serverAction) ∈ form.imports .component := by
        simp [imports, haction]
      exact ⟨_, hvalid.line_mem_sourceLines (by decide) hi, startsImport_line _, _,
        Import.read?_line (hvalid.links_imports _ _ hi).1, List.mem_singleton_self _⟩
  · rintro a ha hrole l hl url hfetch
    obtain ⟨role, -, rfl⟩ := List.mem_map.mp ha
    obtain rfl : role = .component := hrole
    obtain ⟨hstrategy, rfl⟩ := hvalid.eq_routeUrl hl hfetch
    have hroute : Role.apiRoute ∈ form.roles :=
      hvalid.apiRoute_mem_roles (by simpa [postsToRoute] using hstrategy)
    exact ⟨form.artifact .apiRoute, List.mem_map_of_mem hroute, rfl, form.path_apiRoute⟩

/-- A form whose component posts to its API route. -/
def postingForm : Form :=
  { named "contact" with
    fields := [.named "email" .email]
    buttons := [{ text := "Send", variant := .default }]
    storage := some { database := "crm", collection := "contacts" }
    apiRoute := true
    routing := .pages }

theorem references_closed_postingForm :
    postingForm.generate = .ok postingForm.artifacts ∧
      ∀ a ∈ postingForm.artifacts, ∀ l ∈ Text.sourceLines a.contents, startsImport l = true →
        ∃ i, Import.read? l = some i ∧ (i.source.toList.head? = some '.' →
          ∃ b ∈ postingForm.artifacts,
            resolveImport a.path i.source = some (moduleSegments b.path) ∧
              i.ExportedBy (Text.sourceLines b.contents)) := by
  have h : postingForm.generate = .ok postingForm.artifacts :=
    generate_of_valid (by decide) (by decide)
  exact ⟨h, (references_closed h).1⟩

end Form

end FormScaffold
