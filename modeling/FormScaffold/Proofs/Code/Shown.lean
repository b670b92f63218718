import FormScaffold.Proofs.Code.Lines

/-!
# Reading source line by line

A reader goes through the lines of a text and notes what it finds at them.  `Code.Shows` says what
it finds in a piece of source wherever the piece stands, so that what a whole text shows is put
together from its parts (`Code.Shows.found_sourceLines`).
-/

namespace FormScaffold

/-- A line without the spaces in front of it. -/
def unindented (line : String) : String := String.ofList (line.toList.dropWhile (· = ' '))

@[simp] theorem unindented_indented (depth : Nat) (line : String) :
    unindented (Code.indented depth line) = unindented line := by
  rw [unindented, Code.dropWhile_indented, unindented]

/-- A line that begins with a character is not moved in. -/
theorem unindented_of_head {line : String} {c : Char} (h : line.toList.head? = some c)
    (hspace : c ≠ ' ') : unindented line = line := by
  obtain ⟨cs, hcs⟩ : ∃ cs, line.toList = c :: cs := List.head?_eq_some_iff.mp h
  rw [unindented, hcs, List.dropWhile_cons_of_neg (by simpa using hspace), ← hcs,
    String.ofList_toList]

/-- What is found at a line, given the lines behind it.  Nothing is found at an empty line. -/
structure LineReader (α : Type) where
  read : String → List String → Option α
  read_empty : ∀ rest, read "" rest = none

namespace LineReader

variable {α : Type} (reader : LineReader α)

/-- All that is found in some lines. -/
def found : List String → List α
  | [] => []
  | line :: rest => (reader.read line rest).toList ++ found rest

/-- Nothing is found at the line, whatever stands behind it. -/
def Skips (line : String) : Prop := ∀ rest, reader.read (unindented line) rest = none

variable {reader}

theorem found_cons_of_none {line : String} {rest : List String}
    (h : reader.read line rest = none) : reader.found (line :: rest) = reader.found rest := by
  rw [found, h]
  rfl

theorem found_cons_of_some {line : String} {rest : List String} {thing : α}
    (h : reader.read line rest = some thing) :
    reader.found (line :: rest) = thing :: reader.found rest := by
  rw [found, h]
  rfl

theorem found_of_skips {lines : List String} (h : ∀ line ∈ lines, reader.Skips line)
    (rest : List String) : reader.found (lines.map unindented ++ rest) = reader.found rest := by
  induction lines with
  | nil => rfl
  | cons line lines ih =>
    rw [List.map_cons, List.cons_append, found_cons_of_none (h line List.mem_cons_self _)]
    exact ih fun l hl => h l (List.mem_cons_of_mem line hl)

end LineReader

namespace Code

variable {α : Type} {reader : LineReader α}

/-- The lines of single lines in a row. -/
theorem emit_seq_lines (depth : Nat) (written lines : List String) :
    emit depth written (.seq (lines.map .line)) =
      (lines.map (indented depth)).reverse ++ written := by
  induction lines generalizing written with
  | nil => rfl
  | cons l lines ih =>
    have hstep : emit depth written (.seq ((l :: lines).map .line)) =
        emit depth (indented depth l :: written) (.seq (lines.map .line)) := rfl
    rw [hstep, ih, List.map_cons, List.reverse_cons, List.append_assoc, List.singleton_append]

/-- Wherever the piece stands, the reader finds these things in its lines and then goes on. -/
def Shows (reader : LineReader α) (code : Code) (things : List α) : Prop :=
  ∀ depth written, ∃ lines : List String,
    emit depth written code = lines.reverse ++ written ∧
      ∀ rest, reader.found (lines.map unindented ++ rest) = things ++ reader.found rest

namespace Shows

variable {code part : Code} {parts : List Code} {things more : List α}

theorem empty : Shows reader .empty [] := fun _ _ => ⟨[], rfl, fun _ => rfl⟩

theorem nil : Shows reader (.seq []) [] := fun _ _ => ⟨[], rfl, fun _ => rfl⟩

theorem gap : Shows reader .gap [] := by
  intro depth written
  have hcases : addGap written = written ∨ addGap written = "" :: written := by
    cases written with
    | nil => exact .inl rfl
    | cons last before =>
      rw [addGap]
      split
      · exact .inl rfl
      · exact .inr rfl
  rcases hcases with h | h
  · exact ⟨[], h, fun _ => rfl⟩
  · exact ⟨[""], h, fun rest => LineReader.found_cons_of_none (reader.read_empty rest)⟩

/-- A line at which something is found. -/
theorem line {t : String} {thing : α}
    (h : ∀ rest, reader.read (unindented t) rest = some thing) :
    Shows reader (.line t) [thing] := by
  intro depth written
  refine ⟨[indented depth t], rfl, fun rest => ?_⟩
  rw [List.map_singleton, unindented_indented]
  exact LineReader.found_cons_of_some (h rest)

/-- A line at which nothing is found. -/
theorem skip {t : String} (h : reader.Skips t) : Shows reader (.line t) [] := by
  intro depth written
  refine ⟨[indented depth t], rfl, fun rest => ?_⟩
  rw [List.map_singleton, unindented_indented]
  exact LineReader.found_cons_of_none (h rest)

theorem cons (h : Shows reader part things) (hs : Shows reader (.seq parts) more) :
    Shows reader (.seq (part :: parts)) (things ++ more) := by
  intro depth written
  obtain ⟨lines, hemit, hfound⟩ := h depth written
  obtain ⟨behind, hemits, hfounds⟩ := hs depth (lines.reverse ++ written)
  refine ⟨lines ++ behind, ?_, fun rest => ?_⟩
  · have hstep : emit depth written (.seq (part :: parts)) =
        emit depth (emit depth written part) (.seq parts) := rfl
    rw [hstep, hemit, hemits, List.reverse_append, List.append_assoc]
  · rw [List.map_append, List.append_assoc, hfound, hfounds, List.append_assoc]

/-- A piece at which nothing is found, in front of others. -/
theorem after (h : Shows reader part []) (hs : Shows reader (.seq parts) things) :
    Shows reader (.seq (part :: parts)) things := h.cons hs

/-- Pieces at which nothing is found, behind another one. -/
theorem before (h : Shows reader part things) (hs : Shows reader (.seq parts) []) :
    Shows reader (.seq (part :: parts)) things := by
  have hparts := h.cons hs
  rwa [List.append_nil] at hparts

theorem last (h : Shows reader part things) : Shows reader (.seq [part]) things := h.before nil

theorem append {before : List Code} (h : Shows reader (.seq before) things)
    (hs : Shows reader (.seq parts) more) :
    Shows reader (.seq (before ++ parts)) (things ++ more) := by
  intro depth written
  obtain ⟨lines, hemit, hfound⟩ := h depth written
  obtain ⟨behind, hemits, hfounds⟩ := hs depth (lines.reverse ++ written)
  refine ⟨lines ++ behind, ?_, fun rest => ?_⟩
  · have hstep : ∀ (before : List Code) (written : List String),
        emit depth written (.seq (before ++ parts)) =
          emit depth (emit depth written (.seq before)) (.seq parts) := by
      intro before
      induction before with
      | nil => exact fun _ => rfl
      | cons p ps ih => exact fun w => ih (emit depth w p)
    rw [hstep, hemit, hemits, List.reverse_append, List.append_assoc]
  · rw [List.map_append, List.append_assoc, hfound, hfounds, List.append_assoc]

theorem indent (h : Shows reader code things) : Shows reader (.indent code) things :=
  fun depth written => h (depth + 1) written

/-- A block whose first and last lines show nothing. -/
theorem block {opening closing : String} (ho : reader.Skips opening)
    (h : Shows reader code things) (hc : reader.Skips closing) :
    Shows reader (.block opening code closing) things :=
  .after (.skip ho) (.before h.indent (.last (.skip hc)))

/-- A block whose first line is read together with the lines that it encloses. -/
theorem object {opening closing : String} {inner : List String} {thing : α}
    (ho : ∀ rest, reader.read (unindented opening)
      (inner.map unindented ++ unindented closing :: rest) = some thing)
    (hinner : ∀ t ∈ inner, reader.Skips t) (hc : reader.Skips closing) :
    Shows reader (.block opening (.seq (inner.map .line)) closing) [thing] := by
  intro depth written
  refine ⟨indented depth opening :: (inner.map (indented (depth + 1)) ++
    [indented depth closing]), ?_, fun rest => ?_⟩
  · have hlast : emit depth written (.block opening (.seq (inner.map .line)) closing) =
        indented depth closing :: emit (depth + 1) (indented depth opening :: written)
          (.seq (inner.map .line)) := rfl
    rw [hlast, emit_seq_lines]
    simp
  · have hlines : (inner.map (indented (depth + 1))).map unindented = inner.map unindented := by
      rw [List.map_map]
      exact List.map_congr_left fun t _ => unindented_indented _ t
    rw [List.map_cons, List.map_append, List.map_singleton, hlines, unindented_indented,
      unindented_indented, List.cons_append, List.append_assoc, List.singleton_append,
      LineReader.found_cons_of_some (ho rest), LineReader.found_of_skips hinner,
      LineReader.found_cons_of_none (hc rest)]
    rfl

theorem when {condition : Bool} (h : Shows reader code []) :
    Shows reader (.when condition code) [] := by
  cases condition with
  | true => exact h
  | false => exact .empty

/-- Each piece of a row shows one thing. -/
theorem map {β : Type} {piece : β → Code} {thing : β → α} {items : List β}
    (h : ∀ item ∈ items, Shows reader (piece item) [thing item]) :
    Shows reader (.seq (items.map piece)) (items.map thing) := by
  induction items with
  | nil => exact .nil
  | cons item items ih =>
    exact .cons (h item List.mem_cons_self) (ih fun i hi => h i (List.mem_cons_of_mem item hi))

/-- A piece none of whose lines shows anything. -/
theorem skips : (code : Code) → (∀ t ∈ code.texts, reader.Skips t) → Shows reader code []
  | .empty, _ => empty
  | .line _, h => .skip (h _ List.mem_cons_self)
  | .gap, _ => gap
  | .seq [], _ => nil
  | .seq (part :: parts), h => by
    rw [texts_seq_cons] at h
    exact .cons (skips part fun t ht => h t (List.mem_append_left _ ht))
      (skips (.seq parts) fun t ht => h t (List.mem_append_right _ ht))
  | .indent inner, h => (skips inner fun t ht => h t (by rwa [texts_indent])).indent

/-- What the text of a piece shows, when its last line is not empty. -/
theorem found_sourceLines (h : Shows reader code things) (hfeed : code.FeedFree)
    (hlast : ∃ last before, emit 0 [] code = last :: before ∧ last ≠ "") :
    reader.found ((Text.sourceLines code.render).map unindented) = things := by
  obtain ⟨lines, hemit, hfound⟩ := h 0 []
  obtain ⟨last, before, hend, hne⟩ := hlast
  rw [List.append_nil] at hemit
  have hlines : code.toLines = lines := by
    rw [toLines, hend, List.dropWhile_cons_of_neg (by simpa using hne), ← hend, hemit,
      List.reverse_reverse]
  have hnonempty : code.toLines ≠ [] := by
    rw [hlines]
    rintro rfl
    rw [hend] at hemit
    exact List.cons_ne_nil _ _ hemit
  rw [render, Text.sourceLines_intercalate hnonempty hfeed.toLines, hlines, List.map_append,
    hfound]
  have hempty : reader.found ([""].map unindented) = [] :=
    LineReader.found_cons_of_none (reader.read_empty [])
  rw [hempty, List.append_nil]

end Shows

end Code

end FormScaffold
