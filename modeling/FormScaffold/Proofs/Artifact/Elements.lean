import FormScaffold.Proofs.Artifact.Braces
import FormScaffold.Proofs.Code.Shown

/-!
# The elements of a page

A reader of generated source finds the objects that name the fields, and the elements of the
markup: fields, buttons and links.  In the component it finds one element for each field, then one
for each button, then the link if there is one, in every layout and whatever the texts of the form
are; and the objects of the component and of the schema have the names of the fields as their keys
(`Form.elements_of_generate`).
-/

namespace FormScaffold

/-! ## The reader -/

/-- What a line of source shows of a form. -/
inductive SourceElement where
  /-- The object of the schema, with its keys -/
  | entries (keys : List String)
  /-- The object with the values that the fields start with, with its keys -/
  | defaults (keys : List String)
  /-- A field, with the line after the next one -/
  | field (second : Option String)
  /-- A button, with the values of two attributes -/
  | button (type variant : Option String)
  | link
deriving DecidableEq, Repr

/-- Whether a text begins with another one. -/
def startsWith (start text : String) : Bool := start.toList.isPrefixOf text.toList

theorem startsWith_eq_false_of_head {start text : String} {c : Char}
    (hstart : start.toList.head? = some c) (htext : text.toList.head? ≠ some c) :
    startsWith start text = false := by
  rw [← Bool.not_eq_true, startsWith, List.isPrefixOf_iff_prefix]
  rintro ⟨rest, hrest⟩
  rw [← hrest, List.head?_append, hstart] at htext
  exact htext rfl

/-- What stands before the first colon of a line. -/
def lineKey? (line : String) : Option String :=
  (Text.cutFirst (· = ':') line.toList).map fun (key, _) => String.ofList key

/-- The keys of the lines up to the one that closes their object. -/
def keysUntil (closing : String) (lines : List String) : List String :=
  (lines.takeWhile (· ≠ closing)).filterMap lineKey?

/-- Finds an attribute among the pieces of a tag, which are in turn outside of and between double
quotes. -/
def attributeOf (name : String) : List (List Char) → Option (List Char)
  | outside :: value :: rest =>
    if (" " ++ name ++ "=").toList.isSuffixOf outside then some value else attributeOf name rest
  | _ => none

/-- The value of an attribute in the line of a tag. -/
def attribute? (name line : String) : Option String :=
  (attributeOf name (Text.split (· = '\x22') line.toList)).map String.ofList

namespace SourceElement

/-- The element that begins with a line, given the lines behind it. -/
def read (line : String) (rest : List String) : Option SourceElement :=
  if line = "<FormField" then some (.field rest[1]?)
  else if startsWith "<Button type=" line then
    some (.button (attribute? "type" line) (attribute? "variant" line))
  else if startsWith "<Link" line then some .link
  else if line = "defaultValues: \x7b" then some (.defaults (keysUntil "\x7d," rest))
  else if startsWith "export const " line && " = z.object(\x7b".toList.isSuffixOf line.toList then
    some (.entries (keysUntil "\x7d);" rest))
  else none

/-- The reader of source elements. -/
def reader : LineReader SourceElement where
  read := read
  read_empty _ := rfl

/-- The elements that a text shows, whatever its indentation. -/
def elements (text : String) : List SourceElement :=
  reader.found ((Text.sourceLines text).map unindented)

/-! ## Lines that show nothing -/

/-- What the lines at which an element is found begin with. -/
def marks : List String :=
  ["<FormField", "<Button type=", "<Link", "defaultValues: \x7b", "export const "]

/-- The text parts from each of these beginnings, whatever follows it. -/
def Apart (s : String) : Prop :=
  (decide (s.toList.head? ≠ some ' ') &&
    marks.all fun mark => !startsWith mark s && !startsWith s mark) = true

instance (s : String) : Decidable (Apart s) := inferInstanceAs (Decidable (_ = true))

theorem apart_iff (s : String) :
    Apart s ↔ s.toList.head? ≠ some ' ' ∧
      ∀ mark ∈ marks, ¬mark.toList <+: s.toList ∧ ¬s.toList <+: mark.toList := by
  simp only [Apart, startsWith, Bool.and_eq_true, decide_eq_true_eq, List.all_eq_true,
    Bool.not_eq_true', ← List.isPrefixOf_iff_prefix, Bool.not_eq_true]

theorem Apart.append {s : String} (h : Apart s) (t : String) : Apart (s ++ t) := by
  rw [apart_iff] at h ⊢
  obtain ⟨hhead, hmarks⟩ := h
  rw [String.toList_append]
  refine ⟨?_, fun mark hmark => ⟨fun hstart => ?_, fun hstart => ?_⟩⟩
  · cases hs : s.toList with
    | nil => exact absurd (hs ▸ List.nil_prefix) (hmarks "<Link" (by decide)).2
    | cons c cs => simpa [hs] using hhead
  · rcases List.prefix_or_prefix_of_prefix hstart (List.prefix_append s.toList t.toList) with
      hmark' | hs
    · exact (hmarks mark hmark).1 hmark'
    · exact (hmarks mark hmark).2 hs
  · exact (hmarks mark hmark).2 ((List.prefix_append _ _).trans hstart)

theorem Apart.skips {s : String} (h : Apart s) : reader.Skips s := by
  intro rest
  obtain ⟨hhead, hmarks⟩ := (apart_iff s).mp h
  have hstart : ∀ mark ∈ marks, startsWith mark s = false := fun mark hmark => by
    rw [← Bool.not_eq_true, startsWith, List.isPrefixOf_iff_prefix]
    exact (hmarks mark hmark).1
  have hne : ∀ mark ∈ marks, s ≠ mark := by
    rintro mark hmark rfl
    exact (hmarks s hmark).1 List.prefix_rfl
  have hline : unindented s = s := by
    cases hs : s.toList with
    | nil => exact absurd (hs ▸ List.nil_prefix) (hmarks "<Link" (by decide)).2
    | cons c cs =>
      rw [hs] at hhead
      refine unindented_of_head (c := c) (by rw [hs]; rfl) ?_
      rintro rfl
      exact hhead rfl
  show read (unindented s) rest = none
  rw [hline, read, if_neg (hne _ (by decide)), if_neg (by rw [hstart _ (by decide)]; decide),
    if_neg (by rw [hstart _ (by decide)]; decide), if_neg (hne _ (by decide)),
    if_neg (by rw [hstart _ (by decide), Bool.false_and]; decide)]

/-- A line that neither begins with a tag nor opens an object. -/
theorem read_eq_none {line : String} (htag : line.toList.head? ≠ some '<')
    (hopen : line.toList.getLast? ≠ some '\x7b') (rest : List String) : read line rest = none := by
  have hstart {mark : String} (hmark : mark.toList.head? = some '<') : startsWith mark line = false :=
    startsWith_eq_false_of_head hmark htag
  have hend : ¬" = z.object(\x7b".toList.isSuffixOf line.toList = true := by
    intro h
    obtain ⟨cs, hcs⟩ := List.isSuffixOf_iff_suffix.mp h
    rw [← hcs, List.getLast?_append] at hopen
    exact hopen rfl
  rw [read, hstart rfl, hstart rfl, if_neg, if_neg Bool.false_ne_true, if_neg Bool.false_ne_true,
    if_neg, if_neg]
  · rw [Bool.and_eq_true]
    exact fun h => hend h.2
  · rintro rfl
    exact hopen rfl
  · rintro rfl
    exact htag rfl

/-- A piece none of whose lines can be taken for the beginning of an element. -/
def Silent (code : Code) : Prop := ∀ t ∈ code.texts, Apart t

namespace Silent

variable {code part : Code} {parts : List Code}

theorem empty : Silent .empty := by simp [Silent]

theorem gap : Silent .gap := by simp [Silent]

theorem nil : Silent (.seq []) := by simp [Silent]

theorem line {t : String} (h : Apart t) : Silent (.line t) := by simpa [Silent] using h

theorem cons (h : Silent part) (hs : Silent (.seq parts)) : Silent (.seq (part :: parts)) := by
  intro t ht
  rw [Code.texts_seq_cons] at ht
  exact (List.mem_append.mp ht).elim (h t) (hs t)

theorem indent (h : Silent code) : Silent (.indent code) := by
  intro t ht
  rw [Code.texts_indent] at ht
  exact h t ht

theorem block {opening closing : String} (ho : Apart opening) (h : Silent code)
    (hc : Apart closing) : Silent (.block opening code closing) :=
  cons (line ho) (cons h.indent (cons (line hc) nil))

theorem when (h : Silent code) (condition : Bool) : Silent (.when condition code) := by
  cases condition with
  | true => exact h
  | false => exact empty

theorem shows (h : Silent code) : Code.Shows reader code [] := .skips code fun t ht => (h t ht).skips

end Silent

/-- A block with tags or statements around what it shows. -/
theorem shows_block {opening closing : String} {code : Code} {things : List SourceElement}
    (ho : Apart opening) (h : Code.Shows reader code things) (hc : Apart closing) :
    Code.Shows reader (.block opening code closing) things := .block ho.skips h hc.skips

end SourceElement

open SourceElement (Apart Silent reader shows_block)
open Code (Shows)

theorem Import.silent_code (i : Import) : Silent i.code := by
  cases i with
  | named names source => exact .line (.append (.append (.append (.append (by decide) _) _) _) _)
  | types names source => exact .line (.append (.append (.append (.append (by decide) _) _) _) _)
  | default name source => exact .line (.append (.append (.append (.append (by decide) _) _) _) _)

/-! ## Submitting -/

namespace Submission

variable (submission : Submission) (names : Naming)

theorem silent_stateHooks : Silent submission.stateHooks :=
  .cons (.when (.line (by decide)) _) (.cons (.when (.line (by decide)) _)
    (.cons (.line (by decide)) .nil))

theorem silent_onSuccess : Silent submission.onSuccess :=
  .cons (.line (.append (.append (by decide) _) _)) (.cons (.line (by decide)) .nil)

theorem silent_checkResult : Silent submission.checkResult :=
  .block (by decide) (.line (.append (.append (by decide) _) _)) (by decide)

theorem silent_attempt : Silent (submission.attempt names) := by
  have hcheck := submission.silent_checkResult
  have hsuccess := submission.silent_onSuccess
  rw [attempt]
  split
  · exact .cons (.line (.append (.append (by decide) _) _)) (.cons hcheck (.cons hsuccess .nil))
  · refine .cons (.block (.append (.append (by decide) _) _) ?_ (by decide)) ?_
    · exact .cons (.line (by decide)) (.cons (.line (by decide)) (.cons (.line (by decide)) .nil))
    · exact .cons (.line (by decide)) (.cons hcheck (.cons hsuccess .nil))
  · exact .cons (.line (.append (.append (by decide) _) _)) (.cons hsuccess .nil)

theorem silent_onError : Silent submission.onError :=
  .cons (.line (by decide)) (.cons (.when (.line (.append (.append (by decide) _) _)) _) .nil)

theorem silent_handler : Silent (submission.handler names) := by
  refine .cons (.when (.line (by decide)) _) (.cons (.when (.line (by decide)) _)
    (.cons (.line (by decide)) (.cons ?_ (.cons submission.silent_onError.indent
      (.cons ?_ .nil)))))
  · exact .block (by decide) (submission.silent_attempt names) (by decide)
  · split
    · exact .block (by decide) (.line (by decide)) (by decide)
    · exact .line (by decide)

end Submission

/-! ## Fields, buttons and links -/

/-- The child text of an element shows nothing, whatever it is. -/
theorem Quoted.skips_childText (s : String) : reader.Skips (childText s) := by
  rw [childText]
  split
  · exact (Apart.append (.append (by decide) _) _).skips
  · next h =>
    have hplain : ∀ c ∈ (unindented s).toList, endsChildText c = false := by
      intro c hc
      rw [unindented, String.toList_ofList] at hc
      simp only [List.any_eq_true, not_exists, not_and, Bool.not_eq_true] at h
      exact h c ((List.dropWhile_sublist _).subset hc)
    intro rest
    refine SourceElement.read_eq_none (fun htag => ?_) (fun hopen => ?_) rest
    · exact absurd (hplain _ (List.mem_of_mem_head? htag)) (by decide)
    · exact absurd (hplain _ (List.mem_of_mem_getLast? hopen)) (by decide)

theorem Field.apart_control (field : Field) : Apart field.control := by
  refine .append (.append (.append (.append (.append ?_ _) _) _) _) _
  split
  · decide
  · exact .append (.append (by decide) _) _

/-- The lines of a field behind the one with its name. -/
theorem Field.silent_render (field : Field) :
    Silent (.seq
      [ .line "render=\x7b(\x7b field \x7d) => (",
        .indent (.block "<FormItem>"
          (.seq
            [ .line ("<FormLabel>" ++ Quoted.childText field.label ++ "</FormLabel>"),
              .block "<FormControl>" (.line field.control) "</FormControl>",
              .line "<FormMessage />" ])
          "</FormItem>"),
        .line ")\x7d" ]) := by
  refine .cons (.line (by decide)) (.cons (.indent (.block (by decide) ?_ (by decide)))
    (.cons (.line (by decide)) .nil))
  refine .cons (.line (.append (.append (by decide) _) _)) (.cons ?_ (.cons (.line (by decide)) .nil))
  exact .block (by decide) (.line field.apart_control) (by decide)

theorem Field.shows_markup (field : Field) :
    Shows reader field.markup [.field (some ("name=\"" ++ field.name ++ "\""))] := by
  intro depth written
  let opening := Code.indented depth "<FormField"
  let control := Code.indented (depth + 1) ("control=" ++ Quoted.braced "form.control")
  let name := Code.indented (depth + 1) ("name=\"" ++ field.name ++ "\"")
  obtain ⟨lines, hemit, hfound⟩ :=
    field.silent_render.shows (depth + 1) (name :: control :: opening :: written)
  refine ⟨opening :: control :: name :: (lines ++ [Code.indented depth "/>"]), ?_, fun rest => ?_⟩
  · have hlast : Code.emit depth written field.markup = Code.indented depth "/>" ::
        Code.emit (depth + 1) (name :: control :: opening :: written) (.seq _) := rfl
    rw [hlast, hemit]
    simp
  · have hname : unindented ("name=\"" ++ field.name ++ "\"") = "name=\"" ++ field.name ++ "\"" := by
      refine unindented_of_head (c := 'n') ?_ (by decide)
      rw [String.append_assoc, String.toList_append]
      rfl
    have hopening : ∀ behind, reader.read (unindented opening)
        (unindented control :: unindented name :: behind) =
          some (.field (some ("name=\"" ++ field.name ++ "\""))) := by
      intro behind
      rw [unindented_indented depth, unindented_indented _ ("name=\"" ++ _ ++ _), hname]
      rfl
    have hcontrol : ∀ behind, reader.read (unindented control) behind = none := by
      rw [unindented_indented]
      exact (Apart.append (by decide) _).skips
    have hskip : ∀ behind, reader.read (unindented name) behind = none := by
      rw [unindented_indented]
      exact (Apart.append (.append (by decide) _) _).skips
    have hclose : ∀ behind, reader.read (unindented (Code.indented depth "/>")) behind = none := by
      rw [unindented_indented]
      exact Apart.skips (by decide)
    simp only [List.map_cons, List.map_append, List.map_nil, List.cons_append, List.append_assoc,
      List.nil_append]
    rw [LineReader.found_cons_of_some (hopening _), LineReader.found_cons_of_none (hcontrol _),
      LineReader.found_cons_of_none (hskip _), hfound,
      List.nil_append, LineReader.found_cons_of_none (hclose _)]

/-- The pieces between the double quotes of a tag with two attributes. -/
theorem split_tag {before type between variant behind : List Char}
    (hquote : ∀ piece ∈ [before, type, between, variant], '\x22' ∉ piece) :
    Text.split (· = '\x22') (before ++ '\x22' :: (type ++ '\x22' :: (between ++ '\x22' ::
      (variant ++ '\x22' :: behind)))) =
      before :: type :: between :: variant :: Text.split (· = '\x22') behind := by
  have hpiece : ∀ piece ∈ [before, type, between, variant], ∀ c ∈ piece,
      decide (c = '\x22') = false := by
    intro piece hpiece c hc
    refine decide_eq_false ?_
    rintro rfl
    exact hquote piece hpiece hc
  simp only [List.forall_mem_cons] at hpiece
  obtain ⟨hbefore, htype, hbetween, hvariant, -⟩ := hpiece
  rw [Text.split_append_cons hbefore rfl, Text.split_append_cons htype rfl,
    Text.split_append_cons hbetween rfl, Text.split_append_cons hvariant rfl]

/-- The line that opens a button has the type and the variant of the button as its attributes. -/
theorem read_button {type variant : String} (htype : BraceReader.Quotable type)
    (hvariant : BraceReader.Quotable variant) (behind : String) (rest : List String) :
    reader.read (unindented ("<Button type=\"" ++ type ++ "\" variant=\"" ++ variant ++ "\"" ++
      behind)) rest = some (.button (some type) (some variant)) := by
  have hquote {s : String} (h : BraceReader.Quotable s) : '\x22' ∉ s.toList := by
    intro hmem
    exact absurd (h _ hmem) (by decide)
  generalize hline : "<Button type=\"" ++ type ++ "\" variant=\"" ++ variant ++ "\"" ++ behind = line
  have hlist : line.toList = "<Button type=".toList ++ '\x22' :: (type.toList ++ '\x22' ::
      (" variant=".toList ++ '\x22' :: (variant.toList ++ '\x22' :: behind.toList))) := by
    rw [← hline]
    simp
  have hsplit : Text.split (· = '\x22') line.toList = "<Button type=".toList :: type.toList ::
      " variant=".toList :: variant.toList :: Text.split (· = '\x22') behind.toList := by
    rw [hlist, split_tag]
    simp only [List.forall_mem_cons, List.not_mem_nil, false_imp_iff, implies_true, and_true]
    exact ⟨by decide, hquote htype, by decide, hquote hvariant⟩
  have htypeof : attribute? "type" line = some type := by
    rw [attribute?, hsplit, attributeOf, if_pos (by decide), Option.map_some, String.ofList_toList]
  have hvariantof : attribute? "variant" line = some variant := by
    rw [attribute?, hsplit, attributeOf, if_neg (by decide), attributeOf, if_pos (by decide),
      Option.map_some, String.ofList_toList]
  have hstart : startsWith "<Button type=" line = true := by
    rw [startsWith, List.isPrefixOf_iff_prefix, hlist]
    exact List.prefix_append _ _
  have hfield : line ≠ "<FormField" := by
    rintro rfl
    exact absurd hstart (by decide)
  have hunindented : unindented line = line := by
    refine unindented_of_head (c := '<') ?_ (by decide)
    rw [hlist]
    rfl
  show SourceElement.read (unindented line) rest = _
  rw [hunindented, SourceElement.read, if_neg hfield, if_pos hstart, htypeof, hvariantof]

theorem Button.shows_markup (button : Button) (submits loadingState : Bool) :
    Shows reader (button.markup submits loadingState)
      [.button (some (if submits then "submit" else "button")) (some button.variant.name)] := by
  have htype : BraceReader.Quotable (if submits then "submit" else "button") := by
    cases submits <;> decide
  have hclose : Silent (.line "</Button>") := .line (by decide)
  have hopening := read_button htype button.variant.quotable_name
  rw [markup]
  split
  · refine .cons (.line fun rest => ?_) (.cons (.indent (.skip ?_)) (.cons hclose.shows .nil))
    · rw [String.append_assoc, String.append_assoc]
      exact hopening (" disabled=" ++ (Quoted.braced "isSubmitting" ++ ">")) rest
    · exact (Apart.append (.append (by decide) _) _).skips
  · refine .cons (.line fun rest => ?_) (.cons (.indent (.skip ?_)) (.cons hclose.shows .nil))
    · exact hopening _ rest
    · exact Quoted.skips_childText _

theorem Link.shows_markup (link : Link) : Shows reader link.markup [.link] := by
  refine .line fun rest => ?_
  generalize hline : "<Link href=" ++ Quoted.attributeValue link.target ++
    " className=\"text-sm text-blue-600 hover:underline\">" ++ Quoted.childText link.text ++
      "</Link>" = line
  obtain ⟨tail, htail⟩ : ∃ tail, line.toList = "<Link".toList ++ tail := by
    rw [← hline]
    simp only [String.append_assoc, String.toList_append]
    exact ⟨" href=".toList ++ _, rfl⟩
  have hfield : line ≠ "<FormField" := by
    rintro rfl
    exact absurd (congrArg (·[1]?) htail) (by simp)
  have hbutton : startsWith "<Button type=" line = false := by
    rw [startsWith, htail]
    rfl
  have hlink : startsWith "<Link" line = true := by
    rw [startsWith, htail]
    rfl
  have hunindented : unindented line = line := by
    refine unindented_of_head (c := '<') ?_ (by decide)
    rw [htail]
    rfl
  show SourceElement.read (unindented line) rest = _
  rw [hunindented, SourceElement.read, if_neg hfield, if_neg (by rw [hbutton]; decide), if_pos hlink]

/-! ## Layouts -/

/-- A layout shows its fields, then its buttons, then its link. -/
theorem Parts.shows_arrange {parts : Parts} {fields buttons link : List SourceElement}
    (hfields : Shows reader (.seq parts.fields) fields)
    (hbuttons : Shows reader (.seq parts.buttons) buttons)
    (hlink : Shows reader (parts.link.getD .empty) link) (layout : Layout) :
    Shows reader (parts.arrange layout) (fields ++ (buttons ++ link)) := by
  have hactions : Shows reader (.seq parts.actions) (buttons ++ link) := hbuttons.append hlink.last
  have hheader : Silent parts.cardHeader :=
    .block (by decide) (.cons (.line (.append (.append (by decide) _) _))
      (.cons (.line (by decide)) .nil)) (by decide)
  cases layout with
  | stacked =>
    refine shows_block (by decide) (hfields.append (.last ?_)) (by decide)
    exact shows_block (by decide) hactions (by decide)
  | card =>
    refine shows_block (by decide) (.after hheader.shows (.cons ?_ (.last ?_))) (by decide)
    · exact shows_block (by decide) hfields (by decide)
    · exact shows_block (by decide) hactions (by decide)
  | inline => exact shows_block (by decide) (hfields.append hactions) (by decide)

namespace Form

/-- The element of a button at a position. -/
def buttonElement (form : Form) (button : Button) (position : Nat) : SourceElement :=
  .button (some (if position = form.submitIndex then "submit" else "button"))
    (some button.variant.name)

theorem shows_buttonsFrom (form : Form) (buttons : List Button) (position : Nat) :
    Shows reader (.seq (form.buttonsFrom position buttons))
      ((buttons.zipIdx position).map fun (b, i) => form.buttonElement b i) := by
  induction buttons generalizing position with
  | nil => exact .nil
  | cons b bs ih =>
    have hsubmit : (if form.isSubmit position then "submit" else "button") =
        if position = form.submitIndex then "submit" else "button" := by
      simp [isSubmit]
    have hbutton := b.shows_markup (form.isSubmit position) form.loadingState
    rw [hsubmit] at hbutton
    exact hbutton.cons (ih (position + 1))

/-- The elements of the markup: the fields, the buttons and the link. -/
def markupElements (form : Form) : List SourceElement :=
  (form.fields.map fun f => .field (some ("name=\"" ++ f.name ++ "\""))) ++
    (((form.buttons.zipIdx 1).map fun (b, i) => form.buttonElement b i) ++
      if form.link.isSome then [.link] else [])

theorem shows_view (form : Form) : Shows reader form.view form.markupElements := by
  have hparts : Shows reader (form.parts.arrange form.layout) form.markupElements := by
    refine Parts.shows_arrange (.map fun f _ => f.shows_markup) (form.shows_buttonsFrom _ 1) ?_ _
    cases hlink : form.link with
    | none =>
      simp only [parts, hlink]
      exact .empty
    | some link =>
      simp only [parts, hlink]
      exact link.shows_markup
  have hopening : Apart form.containerOpening :=
    .append (.append (.append (.append (by decide) _) _) _) _
  have hform : Apart ("<form onSubmit=" ++ Quoted.braced "form.handleSubmit(onSubmit)" ++
      " className=\"space-y-8 w-full\">") := by decide
  refine shows_block hopening (.after ?_ (.before ?_ (.after ?_ (.last ?_)))) (by decide)
  · exact .skip (Apart.append (.append (by decide) _) _).skips
  · exact shows_block (by decide) (shows_block hform hparts (by decide)) (by decide)
  · exact .when (.skip (Apart.skips (by decide)))
  · exact .skip (Apart.skips (by decide))

end Form

/-! ## Objects with a key for each field -/

/-- The line is an entry of the field: its name, a colon, a value and a comma. -/
def Field.Entry (field : Field) (line : String) : Prop :=
  ∃ value, line.toList = field.name.toList ++ ':' :: (value ++ [','])

namespace Field.Entry

variable {field : Field} {line : String}

theorem head? (h : field.Entry line) (hid : isIdentifier field.name = true) :
    ∃ c, line.toList.head? = some c ∧ continuesIdentifier c = true := by
  obtain ⟨value, hline⟩ := h
  cases hname : field.name.toList with
  | nil => exact absurd (String.toList_eq_nil_iff.mp hname) (ne_empty_of_isIdentifier hid)
  | cons c cs =>
    refine ⟨c, by rw [hline, hname]; rfl, continuesIdentifier_of_mem hid c ?_⟩
    rw [hname]
    exact List.mem_cons_self

theorem unindented_eq (h : field.Entry line) (hid : isIdentifier field.name = true) :
    unindented line = line := by
  obtain ⟨c, hhead, hc⟩ := h.head? hid
  refine unindented_of_head hhead ?_
  rintro rfl
  exact absurd hc (by decide)

theorem skips (h : field.Entry line) (hid : isIdentifier field.name = true) :
    reader.Skips line := by
  intro rest
  obtain ⟨c, hhead, hc⟩ := h.head? hid
  obtain ⟨value, hline⟩ := h
  show SourceElement.read (unindented line) rest = none
  rw [unindented_eq ⟨value, hline⟩ hid]
  refine SourceElement.read_eq_none ?_ ?_ rest
  · rw [hhead]
    rintro ⟨⟩
    exact absurd hc (by decide)
  · rw [hline, ← List.cons_append, ← List.append_assoc, List.getLast?_concat]
    decide

theorem lineKey?_eq (h : field.Entry line) (hid : isIdentifier field.name = true) :
    lineKey? line = some field.name := by
  obtain ⟨value, hline⟩ := h
  have hname : ∀ c ∈ field.name.toList, decide (c = ':') = false := by
    intro c hc
    refine decide_eq_false ?_
    rintro rfl
    exact absurd (continuesIdentifier_of_mem hid _ hc) (by decide)
  rw [lineKey?, hline, Text.cutFirst_append_cons hname rfl]
  exact congrArg some (String.ofList_toList)

/-- The entry closes no object. -/
theorem ne_closing (h : field.Entry line) (hid : isIdentifier field.name = true)
    {closing : String} (hc : closing.toList.head? = some '\x7d') : line ≠ closing := by
  rintro rfl
  obtain ⟨c, hhead, hword⟩ := h.head? hid
  rw [hc] at hhead
  exact absurd hword (by rw [← Option.some.inj hhead]; decide)

end Field.Entry

/-- The keys of an object with an entry for each field are the names of the fields. -/
theorem keysUntil_entries {fields : List Field} {entry : Field → String} (closing : String)
    (hid : ∀ f ∈ fields, isIdentifier f.name = true) (hentry : ∀ f ∈ fields, f.Entry (entry f))
    (hc : closing.toList.head? = some '\x7d') (rest : List String) :
    keysUntil closing ((fields.map entry).map unindented ++ unindented closing :: rest) =
      fields.map (·.name) := by
  have hclosing : unindented closing = closing := unindented_of_head hc (by decide)
  have hlines : (fields.map entry).map unindented = fields.map entry := by
    rw [List.map_map]
    exact List.map_congr_left fun f hf => (hentry f hf).unindented_eq (hid f hf)
  have hopen : ∀ l ∈ fields.map entry, decide (l ≠ closing) = true := by
    intro l hl
    obtain ⟨f, hf, rfl⟩ := List.mem_map.mp hl
    exact decide_eq_true ((hentry f hf).ne_closing (hid f hf) hc)
  rw [keysUntil, hlines, hclosing, List.takeWhile_append_of_pos hopen,
    List.takeWhile_cons_of_neg (by simp), List.append_nil, List.filterMap_map,
    ← List.filterMap_eq_map]
  exact List.filterMap_congr fun f hf => (hentry f hf).lineKey?_eq (hid f hf)

namespace Form

variable {form : Form}

theorem Valid.shows_defaultValues (h : form.Valid) :
    Shows reader (.block "defaultValues: \x7b" form.defaultValues "\x7d,")
      [.defaults (form.fields.map (·.name))] := by
  have hentry : ∀ f ∈ form.fields, f.Entry (f.name ++ ": \"\",") :=
    fun f _ => ⟨" \"\"".toList, by simp⟩
  have hdefaults : form.defaultValues =
      .seq ((form.fields.map fun f => f.name ++ ": \"\",").map .line) := by
    rw [List.map_map]
    rfl
  rw [hdefaults]
  refine .object (fun rest => ?_) (fun t ht => ?_) (Apart.skips (by decide))
  · have hkeys := keysUntil_entries "\x7d," h.fieldNames hentry rfl rest
    rw [← hkeys]
    rfl
  · obtain ⟨f, hf, rfl⟩ := List.mem_map.mp ht
    exact (hentry f hf).skips (h.fieldNames f hf)

theorem Valid.shows_component (h : form.Valid) :
    Shows reader form.component (.defaults (form.fields.map (·.name)) :: form.markupElements) := by
  have himports : Silent form.componentImports := by
    refine .cons (Import.silent_code _) (.cons (Import.silent_code _) (.cons (Import.silent_code _)
      (.cons (Import.silent_code _) (.cons (.when (Import.silent_code _) _)
      (.cons (Import.silent_code _) (.cons (.when (Import.silent_code _) _)
      (.cons (.when (Import.silent_code _) _) (.cons (Import.silent_code _)
      (.cons (.when (Import.silent_code _) _) (.cons (Import.silent_code _)
      (.cons (.when (Import.silent_code _) _) .nil)))))))))))
  have htheme : Silent form.themeStyle := by
    rw [themeStyle]
    split
    · exact .empty
    · exact .block (by decide) (.cons (.line (.append (.append (by decide) _) _))
        (.cons (.line (.append (.append (by decide) _) _)) .nil)) (by decide)
  have hresolver : Silent (.line ("resolver: zodResolver(" ++ form.naming.schemaSymbol ++ "),")) :=
    .line (.append (.append (by decide) _) _)
  have hbody : Shows reader form.componentBody
      ([.defaults (form.fields.map (·.name))] ++ form.markupElements) := by
    refine .after form.submission.silent_stateHooks.shows (.cons ?_ (.after .gap (.after ?_
      (.after .gap (.last ?_)))))
    · refine shows_block (.append (.append (by decide) _) _) ?_ (by decide)
      exact .after hresolver.shows (.last h.shows_defaultValues)
    · refine shows_block (.append (.append (by decide) _) _) ?_ (by decide)
      exact (form.submission.silent_handler form.naming).shows
    · exact shows_block (by decide) form.shows_view (by decide)
  refine .after (.skip (Apart.skips (by decide))) (.after .gap (.after himports.shows (.after .gap
    (.after htheme.shows (.after .gap (.last ?_))))))
  exact shows_block (.append (.append (by decide) _) _) hbody (by decide)

/-- The line that opens the object of a schema. -/
theorem read_schemaOpening (symbol : String) (rest : List String) :
    reader.read (unindented ("export const " ++ symbol ++ " = z.object(\x7b")) rest =
      some (.entries (keysUntil "\x7d);" rest)) := by
  generalize hline : "export const " ++ symbol ++ " = z.object(\x7b" = line
  have hlist : line.toList = "export const ".toList ++ (symbol.toList ++ " = z.object(\x7b".toList) := by
    rw [← hline, String.append_assoc, String.toList_append, String.toList_append]
  have hhead : line.toList.head? = some 'e' := by
    rw [hlist]
    rfl
  have htag {mark : String} (hmark : mark.toList.head? = some '<') : startsWith mark line = false :=
    startsWith_eq_false_of_head hmark (by rw [hhead]; decide)
  have hstart : startsWith "export const " line = true := by
    rw [startsWith, List.isPrefixOf_iff_prefix, hlist]
    exact List.prefix_append _ _
  have hend : " = z.object(\x7b".toList.isSuffixOf line.toList = true := by
    rw [List.isSuffixOf_iff_suffix, hlist, ← List.append_assoc]
    exact List.suffix_append _ _
  show SourceElement.read (unindented line) rest = _
  rw [unindented_of_head hhead (by decide), SourceElement.read, htag rfl, htag rfl, if_neg,
    if_neg Bool.false_ne_true, if_neg Bool.false_ne_true, if_neg, hstart, hend, Bool.and_self,
    if_pos rfl]
  · rintro rfl
    exact absurd hhead (by decide)
  · rintro rfl
    exact absurd hhead (by decide)

theorem Valid.shows_schema (h : form.Valid) :
    Shows reader form.schema [.entries (form.fields.map (·.name))] := by
  have hentry : ∀ f ∈ form.fields, f.Entry
      (f.name ++ ": " ++ Constraint.schemaExpression f.constraints ++ ",") := by
    intro f _
    exact ⟨' ' :: (Constraint.schemaExpression f.constraints).toList, by simp⟩
  have hentries : form.fields.map Field.schemaEntry = (form.fields.map fun f =>
      f.name ++ ": " ++ Constraint.schemaExpression f.constraints ++ ",").map .line := by
    rw [List.map_map]
    rfl
  refine .after (Import.silent_code _).shows (.after .gap (.before ?_ (.after .gap (.last ?_))))
  · rw [hentries]
    refine .object (fun rest => ?_) (fun t ht => ?_) (Apart.skips (by decide))
    · have hkeys := keysUntil_entries "\x7d);" h.fieldNames hentry rfl rest
      rw [← hkeys]
      exact read_schemaOpening form.naming.schemaSymbol _
    · obtain ⟨f, hf, rfl⟩ := List.mem_map.mp ht
      exact (hentry f hf).skips (h.fieldNames f hf)
  · exact .skip (Apart.append (.append (.append (.append (by decide) _) _) _) _).skips

/-! ## The whole text -/

theorem Valid.elements_component (h : form.Valid) :
    SourceElement.elements (form.contents .component) =
      .defaults (form.fields.map (·.name)) :: form.markupElements :=
  h.shows_component.found_sourceLines h.turns_component.2 ⟨"\x7d", _, rfl, by decide⟩

theorem Valid.elements_schema (h : form.Valid) :
    SourceElement.elements (form.contents .schema) = [.entries (form.fields.map (·.name))] := by
  refine h.shows_schema.found_sourceLines h.turns_schema.2 ⟨_, _, rfl, fun hempty => ?_⟩
  have hlist := congrArg String.toList hempty
  simp [Code.indented] at hlist

/-- The component of a generated form shows the fields, the buttons and the link of the form in this
order, and only the button at the submit position submits.  Its starting values and the schema name
the fields in the same order. -/
theorem elements_of_generate {artifacts : List Artifact} (h : form.generate = .ok artifacts) :
    ∃ component schema,
      artifacts.filter (fun a => a.role = .component) = [component] ∧
      artifacts.filter (fun a => a.role = .schema) = [schema] ∧
      SourceElement.elements component.contents =
        .defaults (form.fields.map (·.name)) ::
          ((form.fields.map fun f => .field (some ("name=\"" ++ f.name ++ "\""))) ++
            (((form.buttons.zipIdx 1).map fun (b, i) =>
              .button (some (if i = form.submitIndex then "submit" else "button"))
                (some b.variant.name)) ++
              if form.link.isSome then [.link] else [])) ∧
      1 ≤ form.submitIndex ∧ form.submitIndex ≤ form.buttons.length ∧
      SourceElement.elements schema.contents = [.entries (form.fields.map (·.name))] := by
  obtain ⟨hvalid, rfl⟩ := valid_of_generate h
  have hcomponent : Role.component ∈ form.roles := by simp [roles]
  have hschema : Role.schema ∈ form.roles := by simp [roles]
  exact ⟨form.artifact .component, form.artifact .schema, filter_artifacts hcomponent,
    filter_artifacts hschema, hvalid.elements_component, hvalid.submitIndex.1,
    hvalid.submitIndex.2, hvalid.elements_schema⟩

/-- A form whose texts look like lines of its markup. -/
def markupTexts : Form :=
  { named "contact" with
    fields :=
      [{ name := "defaultValues", label := "\n<FormField", placeholder := "\n<Link", type := .text,
         rules := "", message := none },
       { name := "email", label := "  <Button type=", placeholder := "", type := .email,
         rules := "required", message := some "\n\x7d,\n" }]
    buttons :=
      [{ text := "<Link", variant := .ghost }, { text := "defaultValues: \x7b", variant := .link }]
    submitIndex := 2
    layout := .inline
    link := some { text := "<FormField", target := "<Link" } }

theorem elements_markupTexts :
    markupTexts.generate = .ok markupTexts.artifacts ∧
      ∃ component, markupTexts.artifacts.filter (fun a => a.role = .component) = [component] ∧
        SourceElement.elements component.contents =
          [ .defaults ["defaultValues", "email"],
            .field (some "name=\"defaultValues\""), .field (some "name=\"email\""),
            .button (some "button") (some "ghost"), .button (some "submit") (some "link"),
            .link ] := by
  have h : markupTexts.generate = .ok markupTexts.artifacts :=
    generate_of_valid (by decide) (by decide)
  obtain ⟨component, -, hfilter, -, helements, -⟩ := elements_of_generate h
  exact ⟨h, component, hfilter, helements⟩

end Form

end FormScaffold
