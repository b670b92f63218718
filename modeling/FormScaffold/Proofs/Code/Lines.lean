import FormScaffold.Code
import FormScaffold.Proofs.Text.Split

/-!
# The lines of generated source

A tree of source is read here as the list of its lines with their depths.  Apart from empty lines,
the text of the tree has exactly these lines in this order, so that what a text holds, and what its
lines look like, is decided on the tree.
-/

namespace FormScaffold.Code

open Text (sourceLines)

/-! ## Lines with their depths -/

mutual

/-- The lines of a piece in order, each with its depth, and `none` for every gap. -/
def marks (depth : Nat) : Code → List (Option (Nat × String))
  | empty => []
  | line text => [some (depth, text)]
  | gap => [none]
  | seq parts => marksAll depth parts
  | indent inner => marks (depth + 1) inner

/-- The lines and gaps of several pieces. -/
def marksAll (depth : Nat) : List Code → List (Option (Nat × String))
  | [] => []
  | part :: parts => marks depth part ++ marksAll depth parts

end

@[simp] theorem marks_line (depth : Nat) (text : String) :
    (line text).marks depth = [some (depth, text)] := rfl

@[simp] theorem marks_indent (depth : Nat) (inner : Code) :
    (indent inner).marks depth = inner.marks (depth + 1) := rfl

theorem marks_seq (depth : Nat) (parts : List Code) :
    (seq parts).marks depth = parts.flatMap (marks depth) := by
  rw [marks]
  induction parts with
  | nil => rfl
  | cons part parts ih => rw [marksAll, ih, List.flatMap_cons]

@[simp] theorem marks_block (depth : Nat) (opening : String) (body : Code) (closing : String) :
    (block opening body closing).marks depth =
      some (depth, opening) :: (body.marks (depth + 1) ++ [some (depth, closing)]) := by
  simp [block, marks_seq]

/-- Lines and gaps of which the lines are moved in by some levels. -/
def moveIn (levels : Nat) (marks : List (Option (Nat × String))) : List (Option (Nat × String)) :=
  marks.map (Option.map fun m => (m.1 + levels, m.2))

theorem moveIn_append (levels : Nat) (as bs : List (Option (Nat × String))) :
    moveIn levels (as ++ bs) = moveIn levels as ++ moveIn levels bs :=
  List.map_append

theorem moveIn_moveIn (i j : Nat) (marks : List (Option (Nat × String))) :
    moveIn i (moveIn j marks) = moveIn (i + j) marks := by
  rw [moveIn, moveIn, moveIn, List.map_map]
  congr 1
  funext mark
  cases mark with
  | none => rfl
  | some m =>
    have hdepth : m.1 + j + i = m.1 + (i + j) := by omega
    simp [hdepth]

mutual

/-- A piece has the same lines and gaps wherever it stands, and its lines are moved in by the depth
there. -/
theorem marks_eq_moveIn (depth : Nat) :
    (code : Code) → code.marks depth = moveIn depth (code.marks 0)
  | empty => rfl
  | line text => by simp [moveIn]
  | gap => rfl
  | seq parts => marksAll_eq_moveIn depth parts
  | indent inner => by
    rw [marks_indent, marks_indent, marks_eq_moveIn (depth + 1) inner, marks_eq_moveIn (0 + 1) inner,
      moveIn_moveIn]

theorem marksAll_eq_moveIn (depth : Nat) :
    (parts : List Code) → marksAll depth parts = moveIn depth (marksAll 0 parts)
  | [] => rfl
  | part :: parts => by
    rw [marksAll, marksAll, moveIn_append, ← marks_eq_moveIn depth part,
      ← marksAll_eq_moveIn depth parts]

end

theorem flatMap_marks (depth : Nat) (parts : List Code) :
    parts.flatMap (marks depth) = moveIn depth (parts.flatMap (marks 0)) := by
  rw [← marks_seq, ← marks_seq, marks_eq_moveIn]

/-- The lines of a piece in order, each with its depth. -/
def lines (depth : Nat) (code : Code) : List (Nat × String) := (code.marks depth).filterMap id

@[simp] theorem lines_empty (depth : Nat) : empty.lines depth = [] := rfl

@[simp] theorem lines_line (depth : Nat) (text : String) :
    (line text).lines depth = [(depth, text)] := rfl

@[simp] theorem lines_gap (depth : Nat) : gap.lines depth = [] := rfl

@[simp] theorem lines_indent (depth : Nat) (inner : Code) :
    (indent inner).lines depth = inner.lines (depth + 1) := rfl

@[simp] theorem lines_seq_nil (depth : Nat) : (seq []).lines depth = [] := rfl

@[simp] theorem lines_seq_cons (depth : Nat) (part : Code) (parts : List Code) :
    (seq (part :: parts)).lines depth = part.lines depth ++ (seq parts).lines depth := by
  simp [lines, marks, marksAll]

theorem lines_seq (depth : Nat) (parts : List Code) :
    (seq parts).lines depth = parts.flatMap (lines depth) := by
  induction parts with
  | nil => rfl
  | cons part parts ih => rw [lines_seq_cons, ih, List.flatMap_cons]

@[simp] theorem lines_seq_append (depth : Nat) (as bs : List Code) :
    (seq (as ++ bs)).lines depth = (seq as).lines depth ++ (seq bs).lines depth := by
  simp only [lines_seq, List.flatMap_append]

@[simp] theorem lines_block (depth : Nat) (opening : String) (body : Code) (closing : String) :
    (block opening body closing).lines depth =
      (depth, opening) :: (body.lines (depth + 1) ++ [(depth, closing)]) := by
  simp [block]

@[simp] theorem lines_when (depth : Nat) (condition : Bool) (piece : Code) :
    (when condition piece).lines depth = if condition then piece.lines depth else [] := by
  cases condition <;> rfl

/-- The lines of a piece in order, without their depths. -/
def texts (code : Code) : List String := (code.lines 0).map (·.2)

/-- The depth at which a piece stands changes none of its lines. -/
theorem map_snd_lines (depth : Nat) (code : Code) : (code.lines depth).map (·.2) = code.texts := by
  rw [texts, lines, lines, marks_eq_moveIn depth code, moveIn, List.filterMap_map,
    List.map_filterMap, List.map_filterMap]
  congr 1
  funext m
  cases m <;> rfl

@[simp] theorem texts_empty : empty.texts = [] := rfl

@[simp] theorem texts_line (text : String) : (line text).texts = [text] := rfl

@[simp] theorem texts_gap : gap.texts = [] := rfl

@[simp] theorem texts_indent (inner : Code) : (indent inner).texts = inner.texts :=
  map_snd_lines 1 inner

@[simp] theorem texts_seq_nil : (seq []).texts = [] := rfl

@[simp] theorem texts_seq_cons (part : Code) (parts : List Code) :
    (seq (part :: parts)).texts = part.texts ++ (seq parts).texts := by
  simp [texts]

theorem texts_seq (parts : List Code) : (seq parts).texts = parts.flatMap texts := by
  induction parts with
  | nil => rfl
  | cons part parts ih => rw [texts_seq_cons, ih, List.flatMap_cons]

@[simp] theorem texts_seq_append (as bs : List Code) :
    (seq (as ++ bs)).texts = (seq as).texts ++ (seq bs).texts := by
  simp only [texts_seq, List.flatMap_append]

@[simp] theorem texts_block (opening : String) (body : Code) (closing : String) :
    (block opening body closing).texts = opening :: (body.texts ++ [closing]) := by
  simp [block]

@[simp] theorem texts_when (condition : Bool) (piece : Code) :
    (when condition piece).texts = if condition then piece.texts else [] := by
  cases condition <;> rfl

theorem mem_texts_of_mem_lines {code : Code} {depth : Nat} {m : Nat × String}
    (h : m ∈ code.lines depth) : m.2 ∈ code.texts := by
  rw [← map_snd_lines depth]
  exact List.mem_map_of_mem h

theorem mem_texts_of_mem_marks {code : Code} {depth : Nat} {m : Nat × String}
    (h : some m ∈ code.marks depth) : m.2 ∈ code.texts :=
  mem_texts_of_mem_lines (List.mem_filterMap.mpr ⟨some m, h, rfl⟩)

/-! ## The text of a piece -/

/-- What a line or a gap adds to the lines that are written, the last one first. -/
def addMark (written : List String) : Option (Nat × String) → List String
  | some (depth, text) => indented depth text :: written
  | none => addGap written

mutual

theorem emit_eq_foldl (depth : Nat) (written : List String) :
    (code : Code) → emit depth written code = (code.marks depth).foldl addMark written
  | empty => rfl
  | line _ => rfl
  | gap => rfl
  | seq parts => emitAll_eq_foldl depth written parts
  | indent inner => emit_eq_foldl (depth + 1) written inner

theorem emitAll_eq_foldl (depth : Nat) (written : List String) :
    (parts : List Code) → emitAll depth written parts = (marksAll depth parts).foldl addMark written
  | [] => rfl
  | part :: parts => by
    rw [emitAll, marksAll, List.foldl_append, ← emit_eq_foldl depth written part,
      emitAll_eq_foldl depth _ parts]

end

theorem filter_addGap (written : List String) :
    (addGap written).filter (· ≠ "") = written.filter (· ≠ "") := by
  cases written with
  | nil => rfl
  | cons last before =>
    simp only [addGap]
    split
    · rfl
    · rfl

/-- Gaps only ever add empty lines. -/
theorem filter_foldl_addMark (marks : List (Option (Nat × String))) (written : List String) :
    (marks.foldl addMark written).filter (· ≠ "") =
      ((marks.filterMap id).map fun l => indented l.1 l.2).reverse.filter (· ≠ "") ++
        written.filter (· ≠ "") := by
  induction marks generalizing written with
  | nil => simp
  | cons mark marks ih =>
    rw [List.foldl_cons, ih]
    cases mark with
    | none => rw [addMark, filter_addGap]; rfl
    | some l => simp [addMark, List.filter_append, List.filter_cons]; split <;> simp

theorem filter_dropWhile_empty (written : List String) :
    (written.dropWhile (· = "")).filter (· ≠ "") = written.filter (· ≠ "") := by
  induction written with
  | nil => rfl
  | cons last before ih =>
    rw [List.dropWhile_cons]
    split
    · next h => rw [ih, List.filter_cons_of_neg (by simpa using h)]
    · rfl

/-- Apart from empty lines, a text has the lines of its piece. -/
theorem filter_toLines (code : Code) :
    code.toLines.filter (· ≠ "") =
      ((code.lines 0).map fun l => indented l.1 l.2).filter (· ≠ "") := by
  rw [toLines, List.filter_reverse, filter_dropWhile_empty, emit_eq_foldl, filter_foldl_addMark,
    List.filter_nil, List.append_nil, ← List.filter_reverse, List.reverse_reverse]
  rfl

theorem mem_toLines_iff {code : Code} {l : String} (hl : l ≠ "") :
    l ∈ code.toLines ↔ ∃ m ∈ code.lines 0, indented m.1 m.2 = l := by
  have h : l ∈ code.toLines.filter (· ≠ "") ↔
      l ∈ ((code.lines 0).map fun m => indented m.1 m.2).filter (· ≠ "") := by
    rw [filter_toLines]
  simpa [List.mem_filter, hl] using h

/-! ## Source lines -/

@[simp] theorem indented_zero (text : String) : indented 0 text = text := by
  simp [indented]

theorem toList_indented (depth : Nat) (text : String) :
    (indented depth text).toList = List.replicate (2 * depth) ' ' ++ text.toList := by
  simp [indented]

theorem dropWhile_indented (depth : Nat) (t : String) :
    (indented depth t).toList.dropWhile (· = ' ') = t.toList.dropWhile (· = ' ') := by
  rw [toList_indented]
  induction 2 * depth with
  | zero => rfl
  | succ n ih => rw [List.replicate_succ, List.cons_append, List.dropWhile_cons_of_pos rfl, ih]

/-- A piece none of whose lines holds a line feed. -/
def FeedFree (code : Code) : Prop := ∀ t ∈ code.texts, '\n' ∉ t.toList

/-- Apart from spaces, the written lines have no characters but those of the lines of the tree. -/
theorem notMem_toLines {code : Code} {c : Char} (hc : c ≠ ' ')
    (h : ∀ t ∈ code.texts, c ∉ t.toList) : ∀ l ∈ code.toLines, c ∉ l.toList := by
  intro l hl
  by_cases hempty : l = ""
  · simp [hempty]
  · obtain ⟨m, hm, rfl⟩ := (mem_toLines_iff hempty).mp hl
    rw [toList_indented, List.mem_append, not_or]
    exact ⟨fun hmem => hc (List.eq_of_mem_replicate hmem), h m.2 (mem_texts_of_mem_lines hm)⟩

theorem FeedFree.toLines {code : Code} (h : code.FeedFree) : ∀ l ∈ code.toLines, '\n' ∉ l.toList :=
  notMem_toLines (by decide) h

theorem sourceLines_render {code : Code} (h : code.FeedFree) :
    (sourceLines code.render).filter (· ≠ "") = code.toLines.filter (· ≠ "") := by
  by_cases hempty : code.toLines = []
  · rw [render, hempty]
    rfl
  · rw [render, Text.sourceLines_intercalate hempty h.toLines, List.filter_append]
    simp

/-- What is read off the lines of a text is read off those of its piece, if an empty line gives
nothing. -/
theorem flatMap_sourceLines {α : Type} {code : Code} (h : code.FeedFree) {f : String → List α}
    (hf : f "" = []) :
    (sourceLines code.render).flatMap f =
      (code.lines 0).flatMap fun m => f (indented m.1 m.2) := by
  have hfilter (ls : List String) : (ls.filter (· ≠ "")).flatMap f = ls.flatMap f := by
    induction ls with
    | nil => rfl
    | cons l ls ih =>
      by_cases hl : l = ""
      · rw [List.filter_cons_of_neg (by simpa using hl), ih, List.flatMap_cons, hl, hf,
          List.nil_append]
      · rw [List.filter_cons_of_pos (by simpa using hl), List.flatMap_cons, ih, List.flatMap_cons]
  rw [← hfilter, sourceLines_render h, filter_toLines, hfilter, List.flatMap_map]

/-- The lines of a text are those of its piece, moved in, and empty lines. -/
theorem mem_sourceLines_render {code : Code} (h : code.FeedFree) {l : String} (hl : l ≠ "") :
    l ∈ sourceLines code.render ↔ ∃ m ∈ code.lines 0, indented m.1 m.2 = l := by
  have hmem : l ∈ (sourceLines code.render).filter (· ≠ "") ↔
      l ∈ code.toLines.filter (· ≠ "") := by rw [sourceLines_render h]
  rw [← mem_toLines_iff hl]
  simpa [List.mem_filter, hl] using hmem

/-- What stands in a line of a piece stands in its text. -/
theorem contains_render {code : Code} {t : String} (ht : t ∈ code.texts) {s : String}
    (hs : s.toList <:+: t.toList) : Text.contains code.render s = true := by
  obtain ⟨m, hm, rfl⟩ := List.mem_map.mp ht
  rw [Text.contains_iff_isInfix]
  have hline : s.toList <:+: (indented m.1 m.2).toList := by
    rw [toList_indented]
    exact hs.trans (List.suffix_append _ _).isInfix
  by_cases hempty : indented m.1 m.2 = ""
  · rw [hempty] at hline
    rw [List.infix_nil.mp hline]
    exact List.nil_infix
  · have hmem : indented m.1 m.2 ∈ code.toLines := (mem_toLines_iff hempty).mpr ⟨m, hm, rfl⟩
    refine hline.trans ?_
    rw [render, String.toList_append, String.toList_intercalate]
    refine List.IsInfix.trans ?_ (List.prefix_append _ _).isInfix
    exact Text.isInfix_intercalate (List.mem_map_of_mem hmem)

/-! ## Reading line by line -/

/-- What is read off the lines of a piece that stands at a depth. -/
def readOff {α : Type} (read? : String → Option α) (depth : Nat) (code : Code) : List α :=
  (code.lines depth).filterMap fun m => read? (indented m.1 m.2)

section ReadOff

variable {α : Type} (read? : String → Option α)

@[simp] theorem readOff_empty (depth : Nat) : empty.readOff read? depth = [] := rfl

@[simp] theorem readOff_line (depth : Nat) (text : String) :
    (line text).readOff read? depth = (read? (indented depth text)).toList := by
  cases h : read? (indented depth text) <;> simp [readOff, h]

@[simp] theorem readOff_gap (depth : Nat) : gap.readOff read? depth = [] := rfl

@[simp] theorem readOff_indent (depth : Nat) (inner : Code) :
    (indent inner).readOff read? depth = inner.readOff read? (depth + 1) := rfl

@[simp] theorem readOff_seq_nil (depth : Nat) : (seq []).readOff read? depth = [] := rfl

@[simp] theorem readOff_seq_cons (depth : Nat) (part : Code) (parts : List Code) :
    (seq (part :: parts)).readOff read? depth =
      part.readOff read? depth ++ (seq parts).readOff read? depth := by
  simp [readOff]

@[simp] theorem readOff_seq_append (depth : Nat) (as bs : List Code) :
    (seq (as ++ bs)).readOff read? depth =
      (seq as).readOff read? depth ++ (seq bs).readOff read? depth := by
  simp [readOff]

@[simp] theorem readOff_block (depth : Nat) (opening : String) (body : Code) (closing : String) :
    (block opening body closing).readOff read? depth =
      (read? (indented depth opening)).toList ++ (body.readOff read? (depth + 1) ++
        (read? (indented depth closing)).toList) := by
  simp [block]

@[simp] theorem readOff_when (depth : Nat) (condition : Bool) (piece : Code) :
    (when condition piece).readOff read? depth =
      if condition then piece.readOff read? depth else [] := by
  cases condition <;> rfl

/-- What is read off the lines of a text is read off its piece. -/
theorem filterMap_sourceLines {code : Code} (h : code.FeedFree) {read? : String → Option α}
    (hread : read? "" = none) :
    (sourceLines code.render).filterMap read? = code.readOff read? 0 := by
  have hempty : (read? "").toList = [] := by rw [hread]; rfl
  rw [List.filterMap_eq_flatMap_toList, flatMap_sourceLines h hempty, readOff,
    List.filterMap_eq_flatMap_toList]

end ReadOff

/-! ## Lines that are not moved in -/

mutual

theorem le_of_mem_lines {depth : Nat} {m : Nat × String} :
    (code : Code) → m ∈ code.lines depth → depth ≤ m.1
  | empty, h => by simp at h
  | line _, h => by simp_all
  | gap, h => by simp at h
  | seq parts, h => le_of_mem_lines_seq parts h
  | indent inner, h => Nat.le_of_succ_le (le_of_mem_lines inner h)

theorem le_of_mem_lines_seq {depth : Nat} {m : Nat × String} :
    (parts : List Code) → m ∈ (seq parts).lines depth → depth ≤ m.1
  | [], h => by simp at h
  | part :: parts, h => by
    rw [lines_seq_cons] at h
    rcases List.mem_append.mp h with h | h
    · exact le_of_mem_lines part h
    · exact le_of_mem_lines_seq parts h

end

/-- The lines of a piece that are not moved in. -/
def topTexts (code : Code) : List String := ((code.lines 0).filter (·.1 = 0)).map (·.2)

@[simp] theorem topTexts_empty : empty.topTexts = [] := rfl

@[simp] theorem topTexts_line (text : String) : (line text).topTexts = [text] := rfl

@[simp] theorem topTexts_gap : gap.topTexts = [] := rfl

@[simp] theorem topTexts_indent (inner : Code) : (indent inner).topTexts = [] := by
  rw [topTexts, List.filter_eq_nil_iff.mpr, List.map_nil]
  intro m hm
  have hle : 1 ≤ m.1 := le_of_mem_lines inner hm
  simpa using Nat.ne_of_gt hle

@[simp] theorem topTexts_seq_nil : (seq []).topTexts = [] := rfl

@[simp] theorem topTexts_seq_cons (part : Code) (parts : List Code) :
    (seq (part :: parts)).topTexts = part.topTexts ++ (seq parts).topTexts := by
  simp [topTexts]

@[simp] theorem topTexts_block (opening : String) (body : Code) (closing : String) :
    (block opening body closing).topTexts = [opening, closing] := by
  simp only [block, topTexts_seq_cons, topTexts_line, topTexts_indent, topTexts_seq_nil]
  rfl

@[simp] theorem topTexts_when (condition : Bool) (piece : Code) :
    (when condition piece).topTexts = if condition then piece.topTexts else [] := by
  cases condition <;> rfl

/-- A line that does not begin with a space is a line of the tree that is not moved in. -/
theorem mem_sourceLines_render_of_head {code : Code} (h : code.FeedFree) {l : String} {c : Char}
    (hc : l.toList.head? = some c) (hspace : c ≠ ' ') :
    l ∈ sourceLines code.render ↔ l ∈ code.topTexts := by
  have hl : l ≠ "" := by
    rintro rfl
    simp at hc
  rw [mem_sourceLines_render h hl, topTexts]
  constructor
  · rintro ⟨m, hm, rfl⟩
    have hzero : m.1 = 0 := by
      rcases Nat.eq_zero_or_pos m.1 with hz | hpos
      · exact hz
      · rw [toList_indented, show 2 * m.1 = (2 * m.1 - 1) + 1 by omega,
          List.replicate_succ] at hc
        exact absurd (Option.some.inj hc).symm hspace
    rw [hzero, indented_zero]
    exact List.mem_map.mpr ⟨m, List.mem_filter.mpr ⟨hm, by simpa using hzero⟩, rfl⟩
  · intro hmem
    obtain ⟨m, hm, rfl⟩ := List.mem_map.mp hmem
    obtain ⟨hm, hzero⟩ := List.mem_filter.mp hm
    have hzero : m.1 = 0 := by simpa using hzero
    exact ⟨m, hm, by rw [hzero, indented_zero]⟩

end FormScaffold.Code
