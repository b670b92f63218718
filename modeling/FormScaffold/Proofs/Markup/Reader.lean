import FormScaffold.Code
import FormScaffold.Proofs.Markup.Meaning
import FormScaffold.Proofs.Text.Quoted

/-!
# Reading markup

A reader of markup goes through the lines of a piece of source and reads an element at every line
that begins with a tag: its name, the attributes whose values are texts, and the text of its
children up to the next tag (`MarkupReader.elements`).  What it makes of a text depends on where
the text stands: in an attribute, between two tags, or on a line of its own.
-/

namespace FormScaffold

open Quoted (attributeValue braced childText endsAttribute endsChildText literal)

/-! ## The reader -/

/-- An element as a reader sees it. -/
structure MarkupElement where
  name : String
  /-- The attributes whose values are texts -/
  attributes : List (String × String) := []
  /-- The text up to the next tag -/
  content : String := ""
deriving DecidableEq, Repr

namespace MarkupReader

variable (reader : MarkupReader)

/-- Reads the value of an attribute that is a text: plain, or in braces. -/
def readValue? : List Char → Option (List Char × List Char)
  | '\x22' :: cs => (Quoted.readAttribute? ('\x22' :: cs)).map (Prod.map reader.resolve id)
  | cs => Quoted.readAttribute? cs

/-- Reads an expression in braces that is no text. -/
def skipBraces? : List Char → Option (List Char)
  | '\x7b' :: cs => (Text.cutFirst (· = '\x7d') cs).map (·.2)
  | _ => none

/-- Reads what stands behind a space of a tag: an expression in braces, or an attribute. -/
def readPart? (cs : List Char) : Option (List (String × String) × List Char) :=
  match skipBraces? cs, Text.cutFirst (· = '=') cs with
  | some behind, _ => some ([], behind)
  | none, none => none
  | none, some (name, value) =>
    match reader.readValue? value with
    | some (value, behind) => some ([(String.ofList name, String.ofList value)], behind)
    | none => (skipBraces? value).map fun behind => ([], behind)

/-- The end of a tag, and the attributes before it. -/
structure TagEnd where
  attributes : List (String × String)
  /-- Whether the element ends with its tag -/
  closed : Bool
  behind : List Char

/-- Reads a tag behind the name of its element.  Every part has to take something. -/
def readParts? : List Char → Option TagEnd
  | '>' :: behind => some { attributes := [], closed := false, behind }
  | ' ' :: '/' :: '>' :: behind => some { attributes := [], closed := true, behind }
  | ' ' :: cs =>
    match reader.readPart? cs with
    | none => none
    | some (part, rest) =>
      if rest.length < cs.length then
        (readParts? rest).map fun tag => { tag with attributes := part ++ tag.attributes }
      else none
  | _ => none
termination_by cs => cs.length

/-- A character of child text outside of tags and braces. -/
def isChildText (c : Char) : Bool := c ≠ '<' && c ≠ '\x7b'

/-- Reads an expression whose value is a text: a literal, or one of two by the state of the form. -/
def readExpression? (submitting : Bool) (cs : List Char) : Option (List Char × List Char) :=
  match cs.dropPrefix? "isSubmitting ? ".toList with
  | none => Quoted.readLiteral? cs
  | some cs => do
    let (during, cs) ← Quoted.readLiteral? cs
    let (otherwise, cs) ← Quoted.readLiteral? (← cs.dropPrefix? " : ".toList)
    return (if submitting then during else otherwise, cs)

/-- Reads the children of an element up to the next tag: text, and an expression if there is one. -/
def readContent? (submitting : Bool) (cs : List Char) : Option (List Char) :=
  let before := reader.childMeaning (cs.takeWhile isChildText)
  match cs.dropWhile isChildText with
  | '\x7b' :: cs =>
    match readExpression? submitting cs with
    | some (value, '\x7d' :: cs) =>
      match cs.dropWhile isChildText with
      | '<' :: _ => some (before ++ value ++ reader.childMeaning (cs.takeWhile isChildText))
      | _ => none
    | _ => none
  | '<' :: _ => some before
  | _ => none

/-- Reads an element up to the first tag behind its own. -/
def readElement? (submitting : Bool) : List Char → Option MarkupElement
  | '<' :: cs =>
    let name := cs.takeWhile Char.isAlphanum
    if name = [] then none
    else (reader.readParts? (cs.dropWhile Char.isAlphanum)).bind fun tag =>
      (if tag.closed then some [] else reader.readContent? submitting tag.behind).map fun content =>
        { name := String.ofList name, attributes := tag.attributes
          content := String.ofList content }
  | _ => none

/-- The elements that begin at the lines of a source text. -/
def elements (submitting : Bool) : List String → List MarkupElement
  | [] => []
  | line :: lines =>
    (reader.readElement? submitting
      (("\n".intercalate (line :: lines)).toList.dropWhile (· = ' '))).toList ++
        elements submitting lines

/-! ## Tags -/

variable {reader}

/-- What a reader makes of a text in an attribute. -/
def attributeShown (reader : MarkupReader) (s : String) : String :=
  if s.toList.any endsAttribute then s else String.ofList (reader.resolve s.toList)

theorem readValue?_attributeValue (s : String) (rest : List Char) :
    reader.readValue? ((attributeValue s).toList ++ rest) =
      some ((reader.attributeShown s).toList, rest) := by
  have hread := Quoted.readAttribute?_attributeValue s rest
  rw [attributeShown]
  by_cases h : s.toList.any endsAttribute
  · have hbraces : (attributeValue s).toList ++ rest =
        '\x7b' :: ((literal s).toList ++ '\x7d' :: rest) := by
      rw [attributeValue, if_pos h, Quoted.toList_braced_append]
    rw [if_pos h, ← hread, hbraces]
    rfl
  · have hplain : (attributeValue s).toList ++ rest = '\x22' :: (s.toList ++ '\x22' :: rest) := by
      simp [attributeValue, h]
    rw [if_neg h, hplain, readValue?, ← hplain, hread, String.toList_ofList]
    rfl

/-- A text without an ampersand means itself in an attribute. -/
theorem attributeShown_of_notMem (reader : MarkupReader) {s : String} (h : '&' ∉ s.toList) :
    reader.attributeShown s = s := by
  have hresolve : reader.resolve s.toList = s.toList :=
    (resolve_eq_iff le_rfl).mpr ⟨rfl, fun hreference => h (mem_of_hasReference hreference)⟩
  rw [attributeShown, hresolve, String.ofList_toList, ite_self]

/-- Attributes as they stand in a tag. -/
def attributesText (attributes : List (String × String)) : List Char :=
  attributes.flatMap fun (name, value) =>
    ' ' :: (name.toList ++ '=' :: (attributeValue value).toList)

/-- A name that a reader takes for the name of an attribute. -/
def IsAttributeName (name : String) : Prop :=
  ∀ c ∈ name.toList, c ≠ '=' ∧ c ≠ '\x7b' ∧ c ≠ '/'

instance (name : String) : Decidable (IsAttributeName name) := List.decidableBAll _ name.toList

theorem readPart?_attribute {name : String} (hname : IsAttributeName name) (value : String)
    (rest : List Char) :
    reader.readPart? (name.toList ++ '=' :: ((attributeValue value).toList ++ rest)) =
      some ([(name, reader.attributeShown value)], rest) := by
  have hbrace :
      skipBraces? (name.toList ++ '=' :: ((attributeValue value).toList ++ rest)) = none := by
    cases h : name.toList with
    | nil => rfl
    | cons c cs =>
      have hc : c ≠ '\x7b' := (hname c (h ▸ List.mem_cons_self)).2.1
      rw [List.cons_append, skipBraces?]
      rintro _ heq
      exact hc (List.cons.inj heq).1
  have hcut := Text.cutFirst_append_cons (fun c hc => decide_eq_false (hname c hc).1)
    (decide_eq_true rfl) ((attributeValue value).toList ++ rest)
  simp only [readPart?, hbrace, hcut, readValue?_attributeValue, String.ofList_toList]

/-- An expression in braces is no attribute. -/
theorem readPart?_braced {s : String} (h : '\x7d' ∉ s.toList) (rest : List Char) :
    reader.readPart? ((braced s).toList ++ rest) = some ([], rest) := by
  have hchars : ∀ c ∈ s.toList, decide (c = '\x7d') = false := by
    intro c hc
    refine decide_eq_false ?_
    rintro rfl
    exact h hc
  have hskip : skipBraces? ((braced s).toList ++ rest) = some rest := by
    rw [Quoted.toList_braced_append, skipBraces?, Text.cutFirst_append_cons hchars rfl rest]
    rfl
  rw [readPart?, hskip]

/-- A part of a tag is followed by the rest of the tag. -/
theorem readParts?_part {cs rest : List Char} {part : List (String × String)}
    (hhead : cs.head? ≠ some '/') (hpart : reader.readPart? cs = some (part, rest))
    (hlength : rest.length < cs.length) :
    reader.readParts? (' ' :: cs) =
      (reader.readParts? rest).map fun tag =>
        { tag with attributes := part ++ tag.attributes } := by
  rw [readParts?]
  · simp only [hpart, if_pos hlength]
  · rintro behind rfl
    exact hhead rfl

theorem readParts?_attributes {attributes : List (String × String)}
    (h : ∀ a ∈ attributes, IsAttributeName a.1) (rest : List Char) :
    reader.readParts? (attributesText attributes ++ rest) =
      (reader.readParts? rest).map fun tag =>
        { tag with
          attributes := attributes.map (Prod.map id reader.attributeShown) ++ tag.attributes } := by
  induction attributes with
  | nil => simp [attributesText]
  | cons a attributes ih =>
    obtain ⟨name, value⟩ := a
    have hname : IsAttributeName name := h _ List.mem_cons_self
    have hcs : attributesText ((name, value) :: attributes) ++ rest =
        ' ' :: (name.toList ++
          '=' :: ((attributeValue value).toList ++ (attributesText attributes ++ rest))) := by
      simp [attributesText]
    rw [hcs, readParts?_part ?_ (readPart?_attribute hname value _) ?_,
      ih fun a ha => h a (List.mem_cons_of_mem _ ha), Option.map_map]
    · rfl
    · cases hchars : name.toList with
      | nil => simp
      | cons c cs => simpa using (hname c (hchars ▸ List.mem_cons_self)).2.2
    · simp only [List.length_append, List.length_cons]
      omega

theorem readParts?_open (rest : List Char) :
    reader.readParts? ('>' :: rest) =
      some { attributes := [], closed := false, behind := rest } := by
  rw [readParts?]

theorem readParts?_closed (rest : List Char) :
    reader.readParts? (' ' :: '/' :: '>' :: rest) =
      some { attributes := [], closed := true, behind := rest } := by
  rw [readParts?]

theorem dropWhile_of_readParts? {cs : List Char} {tag : TagEnd}
    (h : reader.readParts? cs = some tag) :
    cs.takeWhile Char.isAlphanum = [] ∧ cs.dropWhile Char.isAlphanum = cs := by
  rw [readParts?.eq_def] at h
  split at h
  · exact ⟨rfl, rfl⟩
  · exact ⟨rfl, rfl⟩
  · exact ⟨rfl, rfl⟩
  · exact absurd h (by simp)

/-- A name that a reader takes for the name of an element. -/
def IsElementName (name : String) : Prop :=
  name.toList ≠ [] ∧ ∀ c ∈ name.toList, c.isAlphanum = true

instance (name : String) : Decidable (IsElementName name) :=
  @instDecidableAnd _ _ _ (List.decidableBAll _ name.toList)

theorem readElement?_tag {submitting : Bool} {name : String} (hname : IsElementName name)
    {cs : List Char} {tag : TagEnd} (htag : reader.readParts? cs = some tag) :
    reader.readElement? submitting ('<' :: (name.toList ++ cs)) =
      (if tag.closed then some [] else reader.readContent? submitting tag.behind).map fun content =>
        { name, attributes := tag.attributes, content := String.ofList content } := by
  obtain ⟨htake, hdrop⟩ := dropWhile_of_readParts? htag
  rw [readElement?, List.takeWhile_append_of_pos hname.2, List.dropWhile_append_of_pos hname.2,
    htake, hdrop, List.append_nil, if_neg hname.1, htag, String.ofList_toList]
  rfl

/-! ## Children -/

/-- What a reader makes of child text between two tags. -/
def inlineShown (reader : MarkupReader) (s : String) : String :=
  if s.toList.any endsChildText then s else String.ofList (reader.childMeaning s.toList)

/-- What a reader makes of child text on a line of its own. -/
def ownLineShown (reader : MarkupReader) (s : String) : String :=
  if s.toList.any endsChildText then s else String.ofList (reader.ownLineMeaning s.toList)

theorem isChildText_of_plain {s : String} (h : ¬s.toList.any endsChildText = true) :
    ∀ c ∈ s.toList, isChildText c = true := by
  intro c hc
  have hends : endsChildText c = false := by
    rw [List.any_eq_true] at h
    exact eq_false_of_ne_true fun hends => h ⟨c, hc, hends⟩
  simp only [endsChildText, List.contains_eq_mem, decide_eq_false_iff_not, List.mem_cons,
    not_or] at hends
  simp [isChildText, hends]

theorem isChildText_moved (n : Nat) :
    ∀ c ∈ '\n' :: List.replicate n ' ', isChildText c = true := by
  intro c hc
  rcases List.mem_cons.mp hc with rfl | hc
  · rfl
  · rw [List.eq_of_mem_replicate hc]
    rfl

theorem readContent?_text (reader : MarkupReader) (submitting : Bool) {cs : List Char}
    (h : ∀ c ∈ cs, isChildText c = true) (rest : List Char) :
    reader.readContent? submitting (cs ++ '<' :: rest) = some (reader.childMeaning cs) := by
  rw [readContent?, List.takeWhile_append_of_pos h, List.dropWhile_append_of_pos h]
  show some (reader.childMeaning (cs ++ [])) = _
  rw [List.append_nil]

theorem readContent?_expression (reader : MarkupReader) {submitting : Bool}
    {expression value before after : List Char}
    (hread : ∀ rest, readExpression? submitting (expression ++ rest) = some (value, rest))
    (hbefore : ∀ c ∈ before, isChildText c = true) (hafter : ∀ c ∈ after, isChildText c = true)
    (rest : List Char) :
    reader.readContent? submitting
      (before ++ '\x7b' :: (expression ++ '\x7d' :: (after ++ '<' :: rest))) =
      some (reader.childMeaning before ++ value ++ reader.childMeaning after) := by
  rw [readContent?, List.takeWhile_append_of_pos hbefore, List.dropWhile_append_of_pos hbefore]
  simp [isChildText, hread, List.takeWhile_append_of_pos hafter,
    List.dropWhile_append_of_pos hafter]

theorem readExpression?_literal (submitting : Bool) (s : String) (rest : List Char) :
    readExpression? submitting ((literal s).toList ++ rest) = some (s.toList, rest) := by
  rw [← Quoted.readLiteral?_literal s rest, literal, String.toList_ofList]
  rfl

theorem toList_childText_append {s : String} (h : s.toList.any endsChildText = true)
    (rest : List Char) :
    (childText s).toList ++ rest = '\x7b' :: ((literal s).toList ++ '\x7d' :: rest) := by
  rw [childText, if_pos h, Quoted.toList_braced_append]

theorem readContent?_inline (reader : MarkupReader) (submitting : Bool) (s : String)
    (rest : List Char) :
    reader.readContent? submitting ((childText s).toList ++ '<' :: rest) =
      some (reader.inlineShown s).toList := by
  rw [inlineShown]
  by_cases h : s.toList.any endsChildText = true
  · have hnone : ∀ c ∈ [], isChildText c = true := fun c hc => absurd hc List.not_mem_nil
    have hread := readContent?_expression reader (readExpression?_literal submitting s) hnone
      hnone rest
    rw [if_pos h, toList_childText_append h]
    simpa using hread
  · rw [if_neg h, childText, if_neg h, readContent?_text reader submitting (isChildText_of_plain h),
      String.toList_ofList]

theorem readContent?_ownLine (reader : MarkupReader) (submitting : Bool) (m n : Nat) (s : String)
    (rest : List Char) :
    reader.readContent? submitting
      ('\n' :: (List.replicate m ' ' ++
        ((childText s).toList ++ '\n' :: (List.replicate n ' ' ++ '<' :: rest)))) =
      some (reader.ownLineShown s).toList := by
  rw [ownLineShown]
  by_cases h : s.toList.any endsChildText = true
  · have hread := readContent?_expression reader (readExpression?_literal submitting s)
      (isChildText_moved m) (isChildText_moved n) rest
    rw [if_pos h, toList_childText_append h]
    simpa using hread
  · -- the text and the white space around it are one piece of child text
    have hchars : ∀ c ∈ '\n' :: (List.replicate m ' ' ++ s.toList ++ '\n' :: List.replicate n ' '),
        isChildText c = true := by
      rw [← List.cons_append, ← List.cons_append, List.forall_mem_append, List.forall_mem_append]
      exact ⟨⟨isChildText_moved m, isChildText_of_plain h⟩, isChildText_moved n⟩
    have hread := readContent?_text reader submitting hchars rest
    rw [childMeaning_ownLine] at hread
    rw [if_neg h, childText, if_neg h, String.toList_ofList, ← hread]
    simp

/-- The expression of a button that shows that a submission is under way. -/
theorem readExpression?_submitting (submitting : Bool) (s t : String) (rest : List Char) :
    readExpression? submitting
      (("isSubmitting ? " ++ literal s ++ " : " ++ literal t).toList ++ rest) =
      some ((if submitting then s else t).toList, rest) := by
  have hstart (start : String) (cs : List Char) :
      (start.toList ++ cs).dropPrefix? start.toList = some cs :=
    List.dropPrefix?_append_of_beq cs (beq_self_eq_true start.toList)
  simp only [String.toList_append, List.append_assoc, readExpression?, hstart,
    Quoted.readLiteral?_literal, Option.bind_eq_bind, Option.bind_some]
  cases submitting <;> rfl

/-! ## Lines -/

section Lines

variable {submitting : Bool} {depth : Nat}

/-- The source behind the first of several lines. -/
def behindLine (lines : List String) : List Char := lines.flatMap fun line => '\n' :: line.toList

@[simp] theorem behindLine_nil : behindLine [] = [] := rfl

@[simp] theorem behindLine_indented (depth : Nat) (text : String) (lines : List String) :
    behindLine (Code.indented depth text :: lines) =
      '\n' :: (List.replicate (2 * depth) ' ' ++ (text.toList ++ behindLine lines)) := by
  simp [behindLine, Code.indented]

/-- A line is read without its indentation. -/
theorem elements_indented (text : String) (lines : List String) :
    reader.elements submitting (Code.indented depth text :: lines) =
      (reader.readElement? submitting
        ((text.toList ++ behindLine lines).dropWhile (· = ' '))).toList ++
          reader.elements submitting lines := by
  have hlines : ("\n".intercalate (Code.indented depth text :: lines)).toList =
      List.replicate (2 * depth) ' ' ++ (text.toList ++ behindLine lines) := by
    rw [String.toList_intercalate, List.map_cons, Text.intercalate_cons, List.flatMap_map,
      Code.indented, String.toList_append, String.toList_ofList, List.append_assoc]
    rfl
  rw [elements, hlines, List.dropWhile_append_of_pos]
  intro c hc
  rw [List.eq_of_mem_replicate hc]
  rfl

/-- No element begins at a line that does not begin with a tag. -/
theorem elements_skip {text : String} (h : (text.toList.dropWhile (· = ' ')).head? ≠ some '<')
    (lines : List String) :
    reader.elements submitting (Code.indented depth text :: lines) =
      reader.elements submitting lines := by
  have hhead : ((text.toList ++ behindLine lines).dropWhile (· = ' ')).head? ≠ some '<' := by
    rw [List.dropWhile_append]
    split
    · -- nothing but spaces stands on the line, and the end of a line is no tag
      cases lines <;> simp [behindLine]
    · next hne =>
      rw [List.head?_append_of_ne_nil _ (by simpa using hne)]
      exact h
  rw [elements_indented, readElement?.eq_def]
  split
  · next heq => exact absurd (by rw [heq]; rfl) hhead
  · rfl

theorem elements_closing {text : String} {cs : List Char} (htext : text.toList = '<' :: '/' :: cs)
    (lines : List String) :
    reader.elements submitting (Code.indented depth text :: lines) =
      reader.elements submitting lines := by
  rw [elements_indented, htext]
  rfl

/-- The element of a tag that begins a line. -/
theorem elements_tag {text name : String} {attributes : List (String × String)}
    (hname : IsElementName name) (hattributes : ∀ a ∈ attributes, IsAttributeName a.1)
    {cs behind content : List Char} {closed : Bool} {lines : List String}
    (htext : text.toList = '<' :: (name.toList ++ (attributesText attributes ++ cs)))
    (hend : reader.readParts? (cs ++ behindLine lines) = some { attributes := [], closed, behind })
    (hcontent : (if closed then some [] else reader.readContent? submitting behind) =
      some content) :
    reader.elements submitting (Code.indented depth text :: lines) =
      { name
        attributes := attributes.map (Prod.map id reader.attributeShown)
        content := String.ofList content } :: reader.elements submitting lines := by
  have htag : reader.readParts? (attributesText attributes ++ (cs ++ behindLine lines)) =
      some
        { attributes := attributes.map (Prod.map id reader.attributeShown), closed, behind } := by
    rw [readParts?_attributes hattributes, hend, Option.map_some, List.append_nil]
  rw [elements_indented, htext, List.cons_append, List.append_assoc, List.append_assoc,
    List.dropWhile_cons_of_neg (by decide), readElement?_tag hname htag, hcontent]
  rfl

/-- A tag without attributes that is followed by another tag on the next line. -/
theorem elements_opening {text name next : String} (hname : IsElementName name)
    (htext : text.toList = '<' :: (name.toList ++ ['>'])) {cs : List Char}
    (hnext : next.toList = '<' :: cs) (n : Nat) (lines : List String) :
    reader.elements submitting (Code.indented depth text :: Code.indented n next :: lines) =
      { name } :: reader.elements submitting (Code.indented n next :: lines) := by
  have hcontent := readContent?_text reader submitting (isChildText_moved (2 * n))
    (cs ++ behindLine lines)
  rw [childMeaning_moved, List.cons_append] at hcontent
  refine elements_tag hname (List.forall_mem_nil _) htext (readParts?_open _) ?_
  rw [behindLine_indented, hnext]
  exact hcontent

/-- A tag that goes on on the next line shows nothing. -/
theorem elements_unended {text name : String} (hname : IsElementName name)
    (htext : text.toList = '<' :: name.toList) (n : Nat) (next : String) (lines : List String) :
    reader.elements submitting (Code.indented depth text :: Code.indented n next :: lines) =
      reader.elements submitting (Code.indented n next :: lines) := by
  have hparts (cs : List Char) : reader.readParts? ('\n' :: cs) = none := by
    rw [readParts?] <;> simp
  rw [elements_indented, behindLine_indented, htext, List.cons_append,
    List.dropWhile_cons_of_neg (by decide), readElement?, List.dropWhile_append_of_pos hname.2,
    List.dropWhile_cons_of_neg (by decide), hparts, Option.bind_none, ite_self]
  rfl

end Lines

end MarkupReader

end FormScaffold
