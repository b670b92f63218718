import FormScaffold.Proofs.Code.Separated

/-!
# Reading generated source back

The text of a tree can be taken as source again, line by line, with its indentation as part of the
lines and a gap for each empty line.  The tree that comes out is flat, and its text is the same
(`render_verbatim_render`): the text of a tree is as it should be written already, so that writing
it once more changes nothing.
-/

namespace FormScaffold.Text

/-! ## Lines of a text that ends with a line feed -/

theorem endLines_concat_nil (pieces : List (List Char)) :
    endLines (pieces ++ [[]]) = pieces.map dropReturn := by
  induction pieces with
  | nil => rfl
  | cons piece pieces ih =>
    obtain ⟨next, rest, hrest⟩ := List.exists_cons_of_ne_nil
      (List.append_ne_nil_of_right_ne_nil pieces (List.cons_ne_nil ([] : List Char) []))
    rw [List.cons_append, hrest, endLines, ← hrest, ih, List.map_cons]
    exact List.cons_ne_nil next rest

theorem dropReturn_eq_self {line : List Char} (h : '\r' ∉ line) : dropReturn line = line := by
  rw [dropReturn, if_neg fun hlast => h (List.mem_of_getLast? hlast)]

/-- Lines that are each ended with a line feed are the lines of the text. -/
theorem lines_intercalate {ls : List String} (hne : ls ≠ [])
    (h : ∀ l ∈ ls, '\n' ∉ l.toList ∧ '\r' ∉ l.toList) :
    lines ("\n".intercalate ls ++ "\n") = ls := by
  have hsplit : split (· == '\n') ("\n".intercalate ls ++ "\n").toList =
      ls.map String.toList ++ [[]] := by
    have hjoined := split_joined hne fun l hl => (h l hl).1
    rwa [List.map_append] at hjoined
  have hkept : (ls.map String.toList).map dropReturn = ls.map String.toList := by
    rw [List.map_map]
    exact List.map_congr_left fun l hl => dropReturn_eq_self (h l hl).2
  rw [lines, hsplit, endLines_concat_nil, hkept, List.map_map]
  simp

end FormScaffold.Text

namespace FormScaffold.Code

/-! ## Source taken as it is -/

/-- A line that is taken as it is: a gap if it is blank. -/
def taken (line : String) : Option (Nat × String) :=
  if Text.AllBlank line then none else some (0, line)

theorem marks_verbatim (text : String) :
    (verbatim text).marks 0 = (Text.lines text).map taken := by
  rw [verbatim, marks_seq, List.flatMap_map]
  induction Text.lines text with
  | nil => rfl
  | cons line lines ih =>
    rw [List.flatMap_cons, ih, List.map_cons, taken]
    split <;> rfl

/-- Blank lines are gaps and never lines of what is taken. -/
theorem not_allBlank_of_mem_texts_verbatim {text t : String} (h : t ∈ (verbatim text).texts) :
    ¬Text.AllBlank t := by
  rw [verbatim, texts_seq] at h
  obtain ⟨piece, hpiece, h⟩ := List.mem_flatMap.mp h
  obtain ⟨line, -, rfl⟩ := List.mem_map.mp hpiece
  split at h
  · exact absurd h List.not_mem_nil
  · next hline => exact List.mem_singleton.mp h ▸ hline

/-! ## Lines that are set apart, read back -/

theorem allBlank_indented_iff (depth : Nat) (text : String) :
    Text.AllBlank (indented depth text) ↔ Text.AllBlank text := by
  have hspaces : (List.replicate (2 * depth) ' ').all Text.isBlank = true :=
    List.all_eq_true.mpr fun c hc => List.eq_of_mem_replicate hc ▸ rfl
  rw [Text.AllBlank, Text.AllBlank, toList_indented, List.all_append, hspaces, Bool.true_and]

/-- A line with its indentation as part of it. -/
def flattened : Bool × Nat × String → Bool × Nat × String
  | (gapBefore, depth, text) => (gapBefore, 0, indented depth text)

@[simp] theorem spaced_flattened (line : Bool × Nat × String) :
    spaced (flattened line) = spaced line := by
  obtain ⟨gapBefore, depth, text⟩ := line
  cases gapBefore <;> simp [flattened, spaced]

theorem spread_map_flattened (lines : List (Bool × Nat × String)) :
    spread (lines.map flattened) = spread lines := by
  cases lines with
  | nil => rfl
  | cons line lines =>
    obtain ⟨gapBefore, depth, text⟩ := line
    rw [List.map_cons, flattened, spread, spread, indented_zero, List.flatMap_map]
    simp only [spaced_flattened]

section

variable {lines : List (Bool × Nat × String)} (hlines : ∀ l ∈ lines, ¬Text.AllBlank l.2.2)
include hlines

/-- The empty line before a line is read back as the gap before it. -/
theorem separated_map_taken :
    separated false ((lines.flatMap spaced).map taken) = lines.map flattened := by
  induction lines with
  | nil => rfl
  | cons line lines ih =>
    obtain ⟨gapBefore, depth, text⟩ := line
    have hline : taken (indented depth text) = some (0, indented depth text) :=
      if_neg (mt (allBlank_indented_iff depth text).mp (hlines _ List.mem_cons_self))
    have hempty : taken "" = none := rfl
    have hrest := ih fun l hl => hlines l (List.mem_cons_of_mem _ hl)
    rw [List.flatMap_cons, List.map_append, List.map_cons, flattened, ← hrest]
    cases gapBefore with
    | false => rw [spaced, List.map_singleton, hline, List.singleton_append, separated]
    | true =>
      rw [spaced, List.map_cons, List.map_singleton, hempty, hline, List.cons_append,
        List.singleton_append, separated, separated]

/-- Lines that were written are written in the same way again. -/
theorem spread_separated_map_taken :
    spread (separated false ((spread lines).map taken)) = spread lines := by
  cases lines with
  | nil => rfl
  | cons line lines =>
    obtain ⟨gapBefore, depth, text⟩ := line
    have hfirst : spread ((gapBefore, depth, text) :: lines) =
        ((false, depth, text) :: lines).flatMap spaced := rfl
    have hfirstLine : ¬Text.AllBlank text := hlines _ List.mem_cons_self
    have hkept : ∀ l ∈ (false, depth, text) :: lines, ¬Text.AllBlank l.2.2 :=
      List.forall_mem_cons.mpr ⟨hfirstLine, fun l hl => hlines l (List.mem_cons_of_mem _ hl)⟩
    rw [hfirst, separated_map_taken hkept, spread_map_flattened]
    rfl

end

theorem mem_marks_of_mem_separated {marks : List (Option (Nat × String))} {gapBefore : Bool}
    {l : Bool × Nat × String} (h : l ∈ separated gapBefore marks) : some l.2 ∈ marks := by
  induction marks generalizing gapBefore with
  | nil => exact absurd h List.not_mem_nil
  | cons mark marks ih =>
    cases mark with
    | none => exact List.mem_cons_of_mem _ (ih h)
    | some m =>
      rcases List.mem_cons.mp h with rfl | h
      · exact List.mem_cons_self
      · exact List.mem_cons_of_mem _ (ih h)

/-! ## The text of a text -/

theorem lines_render {code : Code} (hne : code.toLines ≠ [])
    (h : ∀ t ∈ code.texts, '\n' ∉ t.toList ∧ '\r' ∉ t.toList) :
    Text.lines code.render = code.toLines :=
  Text.lines_intercalate hne fun l hl =>
    ⟨notMem_toLines (by decide) (fun t ht => (h t ht).1) l hl,
      notMem_toLines (by decide) (fun t ht => (h t ht).2) l hl⟩

/-- Source that is taken from the text of a tree has the same text, if every line of the tree is one
line and not blank.  A blank line would come back as a gap. -/
theorem render_verbatim_render {code : Code}
    (h : ∀ t ∈ code.texts, '\n' ∉ t.toList ∧ '\r' ∉ t.toList ∧ ¬Text.AllBlank t) :
    (verbatim code.render).render = code.render := by
  have hempty : "" ∉ code.texts := fun hmem => (h "" hmem).2.2 rfl
  by_cases hnil : code.toLines = []
  · have hfeed : code.render = "\n" := by
      rw [render, hnil]
      rfl
    rw [hfeed]
    rfl
  have hlines : Text.lines code.render = code.toLines :=
    lines_render hnil fun t ht => ⟨(h t ht).1, (h t ht).2.1⟩
  have hblank : ∀ l ∈ separated false (code.marks 0), ¬Text.AllBlank l.2.2 := fun l hl =>
    (h l.2.2 (mem_texts_of_mem_marks (mem_marks_of_mem_separated hl))).2.2
  have htaken : "" ∉ (verbatim code.render).texts := fun hmem =>
    not_allBlank_of_mem_texts_verbatim hmem rfl
  rw [render, toLines_eq htaken, marks_verbatim, hlines, toLines_eq hempty,
    spread_separated_map_taken hblank, render, toLines_eq hempty]

/-- A tree with gaps at its ends and in a row, and with white space at the ends of its lines. -/
def ragged : Code :=
  seq [gap, indent (seq [line "  a ", gap, gap, indent (line "\tb\u00a0")]), empty, gap, line "c",
    gap]

theorem render_verbatim_ragged :
    (∀ t ∈ ragged.texts, '\n' ∉ t.toList ∧ '\r' ∉ t.toList ∧ ¬Text.AllBlank t) ∧
      ragged.render = "    a \n\n    \tb\u00a0\n\nc\n" ∧
      (verbatim ragged.render).render = ragged.render := by
  have htexts : ∀ t ∈ ragged.texts, '\n' ∉ t.toList ∧ '\r' ∉ t.toList ∧ ¬Text.AllBlank t := by
    decide
  exact ⟨htexts, by decide, render_verbatim_render htexts⟩

end FormScaffold.Code
