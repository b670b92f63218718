import FormScaffold.Proofs.Code.Lines

/-!
# Where empty lines stand in generated source

The text of a tree has the lines of the tree in order, each moved in by its depth, and one empty
line between two of them where a gap stands between them; there is no other empty line
(`render_eq_spread`).  So the text depends neither on how parts are grouped nor on the depth of a
gap nor on how many gaps come in a row (`Regrouped.toLines_eq`).
-/

namespace FormScaffold.Code

/-! ## Lines that are set apart -/

/-- The lines among marks in order, each with whether a gap stands between the line before and
it.  For the first line `gapBefore` says whether there was a gap before the marks. -/
def separated (gapBefore : Bool) : List (Option (Nat × String)) → List (Bool × Nat × String)
  | [] => []
  | none :: marks => separated true marks
  | some (depth, text) :: marks => (gapBefore, depth, text) :: separated false marks

/-- A line at its depth, behind an empty line if it is set apart from the line before. -/
def spaced : Bool × Nat × String → List String
  | (true, depth, text) => ["", indented depth text]
  | (false, depth, text) => [indented depth text]

/-- Lines as they are written.  There is nothing before the first that it could be set apart
from. -/
def spread : List (Bool × Nat × String) → List String
  | [] => []
  | (_, depth, text) :: lines => indented depth text :: lines.flatMap spaced

theorem indented_ne_empty_of_ne {text : String} (h : text ≠ "") (depth : Nat) :
    indented depth text ≠ "" := by
  rw [indented, Ne, String.append_eq_empty_iff]
  exact fun hempty => h hempty.2

section

variable {marks : List (Option (Nat × String))} (hmarks : ∀ m, some m ∈ marks → m.2 ≠ "")
include hmarks

/-- What is written for marks behind a line, when a gap may already have been written behind that
line.  The last line comes first. -/
theorem dropWhile_foldl_addMark {last : String} (hlast : last ≠ "") (before : List String)
    (pending : Bool) :
    (marks.foldl addMark (if pending then "" :: last :: before else last :: before)).dropWhile
        (· = "") =
      ((separated pending marks).flatMap spaced).reverse ++ last :: before := by
  induction marks generalizing last before pending with
  | nil => cases pending <;> simp [separated, hlast]
  | cons mark marks ih =>
    have hrest : ∀ m, some m ∈ marks → m.2 ≠ "" := fun m hm =>
      hmarks m (List.mem_cons_of_mem mark hm)
    rw [List.foldl_cons]
    cases mark with
    | none =>
      have hgap : addMark (if pending then "" :: last :: before else last :: before) none =
          "" :: last :: before := by
        cases pending <;> simp [addMark, addGap, hlast]
      rw [hgap, separated]
      exact ih hrest hlast before true
    | some m =>
      obtain ⟨depth, text⟩ := m
      have hline := indented_ne_empty_of_ne (hmarks (depth, text) List.mem_cons_self) depth
      have htail := ih hrest hline (if pending then "" :: last :: before else last :: before) false
      rw [if_neg Bool.false_ne_true] at htail
      rw [addMark, htail, separated, List.flatMap_cons, List.reverse_append, List.append_assoc]
      cases pending <;> rfl

/-- Gaps before the first line write nothing. -/
theorem dropWhile_foldl_addMark_nil (gapBefore : Bool) :
    (marks.foldl addMark []).dropWhile (· = "") = (spread (separated gapBefore marks)).reverse := by
  induction marks generalizing gapBefore with
  | nil => rfl
  | cons mark marks ih =>
    have hrest : ∀ m, some m ∈ marks → m.2 ≠ "" := fun m hm =>
      hmarks m (List.mem_cons_of_mem mark hm)
    cases mark with
    | none => exact ih hrest true
    | some m =>
      obtain ⟨depth, text⟩ := m
      have hline := indented_ne_empty_of_ne (hmarks (depth, text) List.mem_cons_self) depth
      have htail := dropWhile_foldl_addMark hrest hline [] false
      rw [if_neg Bool.false_ne_true] at htail
      rw [List.foldl_cons, addMark, htail, separated, spread, List.reverse_cons]

end

theorem ne_empty_of_mem_marks {code : Code} (h : "" ∉ code.texts) {m : Nat × String}
    (hm : some m ∈ code.marks 0) : m.2 ≠ "" :=
  fun hempty => h (hempty ▸ mem_texts_of_mem_marks hm)

/-- The lines of the text of a piece without empty lines of its own. -/
theorem toLines_eq {code : Code} (h : "" ∉ code.texts) :
    code.toLines = spread (separated false (code.marks 0)) := by
  rw [toLines, emit_eq_foldl, dropWhile_foldl_addMark_nil (fun _ => ne_empty_of_mem_marks h) false,
    List.reverse_reverse]

/-! ## Trees with the same text -/

/-- Trees that differ in parts that are empty, in how parts are grouped, in the depths of gaps and
in how many gaps come in a row. -/
inductive Regrouped : Code → Code → Prop
  | refl (code : Code) : Regrouped code code
  | symm {c d : Code} : Regrouped c d → Regrouped d c
  | trans {c d e : Code} : Regrouped c d → Regrouped d e → Regrouped c e
  | part {c d : Code} (before after : List Code) :
    Regrouped c d → Regrouped (seq (before ++ c :: after)) (seq (before ++ d :: after))
  | inner {c d : Code} : Regrouped c d → Regrouped (indent c) (indent d)
  | emptyPart (before after : List Code) :
    Regrouped (seq (before ++ empty :: after)) (seq (before ++ after))
  | nested (before parts after : List Code) :
    Regrouped (seq (before ++ seq parts :: after)) (seq (before ++ parts ++ after))
  | single (code : Code) : Regrouped (seq [code]) code
  | indentedParts (parts : List Code) : Regrouped (indent (seq parts)) (seq (parts.map indent))
  | gapDepth : Regrouped (indent gap) gap
  | gaps : Regrouped (seq [gap, gap]) gap

theorem emitAll_append (depth : Nat) (written : List String) (as bs : List Code) :
    emitAll depth written (as ++ bs) = emitAll depth (emitAll depth written as) bs := by
  induction as generalizing written with
  | nil => rfl
  | cons a as ih => rw [List.cons_append, emitAll, emitAll, ih]

theorem emitAll_map_indent (depth : Nat) (written : List String) (parts : List Code) :
    emitAll depth written (parts.map indent) = emitAll (depth + 1) written parts := by
  induction parts generalizing written with
  | nil => rfl
  | cons part parts ih => rw [List.map_cons, emitAll, emitAll, ih, emit]

theorem addGap_addGap (written : List String) : addGap (addGap written) = addGap written := by
  cases written with
  | nil => rfl
  | cons last before =>
    by_cases hlast : last = "" <;> simp [addGap, hlast]

/-- Regrouped trees add the same lines wherever they stand. -/
theorem Regrouped.emit_eq {c d : Code} (h : Regrouped c d) (depth : Nat) (written : List String) :
    emit depth written c = emit depth written d := by
  induction h generalizing depth written with
  | refl => rfl
  | symm _ ih => exact (ih depth written).symm
  | trans _ _ ih ih' => exact (ih depth written).trans (ih' depth written)
  | part before after _ ih =>
    rw [emit, emit, emitAll_append, emitAll_append, emitAll, emitAll, ih]
  | inner _ ih => exact ih (depth + 1) written
  | emptyPart before after =>
    rw [emit, emit, emitAll_append, emitAll_append, emitAll, emit]
  | nested before parts after =>
    rw [emit, emit, List.append_assoc, emitAll_append, emitAll_append, emitAll_append, emitAll,
      emit]
  | single code => rfl
  | indentedParts parts =>
    rw [emit, emit, emit, emitAll_map_indent]
  | gapDepth => rfl
  | gaps => exact addGap_addGap written

theorem Regrouped.toLines_eq {c d : Code} (h : Regrouped c d) : c.toLines = d.toLines := by
  rw [toLines, toLines, h.emit_eq]

/-! ## The text of a tree -/

/-- The text of a tree without empty lines of its own has the lines of the tree at their depths,
one empty line between those with a gap between them, and a line feed at the end.  Trees that are
regrouped have the same text. -/
theorem render_eq_spread {code : Code} (h : "" ∉ code.texts) :
    code.render = "\n".intercalate (spread (separated false (code.marks 0))) ++ "\n" ∧
      ∀ other : Code, Regrouped code other → other.render = code.render := by
  refine ⟨by rw [render, toLines_eq h], fun other hother => ?_⟩
  rw [render, render, hother.toLines_eq]

/-- A tree with gaps at its ends, in a row and at different depths. -/
def gappy : Code :=
  seq [gap, line "a", seq [], indent (seq [gap, empty, gap, line "b", line "c"]), gap, seq [gap],
    line "d", gap]

theorem render_gappy :
    "" ∉ gappy.texts ∧ gappy.render = "a\n\n  b\n  c\n\nd\n" ∧
      (seq [gappy, empty]).render = "a\n\n  b\n  c\n\nd\n" := by
  have htexts : "" ∉ gappy.texts := by decide
  obtain ⟨hrender, hother⟩ := render_eq_spread htexts
  have htext : gappy.render = "a\n\n  b\n  c\n\nd\n" := by
    rw [hrender]
    decide
  have hregrouped : Regrouped gappy (seq [gappy, empty]) :=
    (Regrouped.emptyPart [gappy] []).trans (.single gappy) |>.symm
  exact ⟨htexts, htext, (hother _ hregrouped).trans htext⟩

end FormScaffold.Code
