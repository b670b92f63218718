import FormScaffold.Proofs.Code.Lines

/-!
# Where lines end

Readers of source end a line at line feeds, at carriage returns, or at both.  They see the same
number of lines exactly when a text has no carriage return (`Text.length_lines_iff`).  How many
lines a piece has does not depend on what they say (`Code.length_sourceLines_eq`).
-/

namespace FormScaffold

/-! ## Readers -/

/-- What ends a line. -/
inductive LineEnd where
  /-- A line feed -/
  | feed
  /-- A line feed or a carriage return -/
  | either
  /-- A line feed, a carriage return, or both in this order as one -/
  | pair
deriving DecidableEq, Repr

namespace Text

/-- Whether a character ends a line for readers that end lines at carriage returns too. -/
def endsLine (c : Char) : Bool := c = '\n' || c = '\r'

/-- A text without the carriage returns that stand before a line feed. -/
def joinPairs : List Char → List Char
  | [] => []
  | c :: cs => if c = '\r' ∧ cs.head? = some '\n' then joinPairs cs else c :: joinPairs cs

end Text

/-- The lines of a text for a reader. -/
def LineEnd.lines : LineEnd → String → List String
  | feed, s => Text.sourceLines s
  | either, s => (Text.split Text.endsLine s.toList).map String.ofList
  | pair, s => (Text.split Text.endsLine (Text.joinPairs s.toList)).map String.ofList

namespace Text

theorem length_split (sep : Char → Bool) (cs : List Char) :
    (split sep cs).length = cs.countP sep + 1 := by
  induction cs with
  | nil => rfl
  | cons c cs ih =>
    rw [split]
    split
    · next hc => rw [List.length_cons, ih, List.countP_cons_of_pos hc]
    · next hc =>
      cases h : split sep cs with
      | nil => exact absurd h (split_ne_nil cs)
      | cons p ps =>
        rw [h, List.length_cons] at ih
        rw [List.length_cons, ih, List.countP_cons_of_neg hc]

theorem joinPairs_eq_self {cs : List Char} (h : '\r' ∉ cs) : joinPairs cs = cs := by
  induction cs with
  | nil => rfl
  | cons c cs ih =>
    obtain ⟨hc, hcs⟩ := not_or.mp (mt List.mem_cons.mpr h)
    rw [joinPairs, if_neg fun hpair => hc hpair.1.symm, ih hcs]

/-- Without carriage returns only line feeds end lines. -/
theorem countP_endsLine_eq_iff {cs : List Char} :
    cs.countP endsLine = cs.countP (· = '\n') ↔ '\r' ∉ cs := by
  have hsplit : cs.countP endsLine = cs.countP (· = '\n') + cs.countP (· = '\r') := by
    induction cs with
    | nil => rfl
    | cons c cs ih =>
      simp only [List.countP_cons, ih]
      by_cases hfeed : c = '\n'
      · simp [hfeed, endsLine]
        omega
      · by_cases hreturn : c = '\r'
        · simp [hreturn, endsLine]
          omega
        · simp [hfeed, hreturn, endsLine]
  have hzero : cs.countP (· = '\r') = 0 ↔ '\r' ∉ cs := by
    rw [List.countP_eq_zero]
    constructor
    · intro h hc
      exact h '\r' hc (by decide)
    · rintro h c hc heq
      exact h (of_decide_eq_true heq ▸ hc)
  rw [hsplit, ← hzero]
  omega

/-- All readers see the same number of lines exactly when no line holds a carriage return. -/
theorem length_lines_iff (s : String) :
    (∀ reader : LineEnd, (reader.lines s).length = (sourceLines s).length) ↔ '\r' ∉ s.toList := by
  have hlength (sep : Char → Bool) (cs : List Char) :
      ((split sep cs).map String.ofList).length = cs.countP sep + 1 := by
    rw [List.length_map, length_split]
  constructor
  · intro h
    have heither := h .either
    rw [LineEnd.lines, sourceLines, hlength, hlength, Nat.add_right_cancel_iff] at heither
    exact countP_endsLine_eq_iff.mp heither
  · intro h reader
    have hcount := countP_endsLine_eq_iff.mpr h
    cases reader with
    | feed => rfl
    | either => rw [LineEnd.lines, sourceLines, hlength, hlength, hcount]
    | pair => rw [LineEnd.lines, joinPairs_eq_self h, sourceLines, hlength, hlength, hcount]

/-- A character of a text that is no line feed stands in a line. -/
theorem exists_mem_sourceLines_iff {s : String} {c : Char} (hc : c ≠ '\n') :
    (∃ l ∈ sourceLines s, c ∈ l.toList) ↔ c ∈ s.toList := by
  constructor
  · rintro ⟨l, hl, hmem⟩
    obtain ⟨piece, hpiece, rfl⟩ := List.mem_map.mp hl
    rw [String.toList_ofList] at hmem
    exact (mem_of_mem_split hpiece hmem).1
  · intro h
    rw [← intercalate_split '\n' s.toList] at h
    rcases mem_intercalate h with h | ⟨piece, hpiece, h⟩
    · exact absurd (List.mem_singleton.mp h) hc
    · exact ⟨String.ofList piece, List.mem_map_of_mem hpiece, by rwa [String.toList_ofList]⟩

end Text

namespace Code

open Text (sourceLines)

/-! ## Counting lines -/

/-- The depth at which a piece stands changes nothing about its lines and gaps. -/
theorem map_isSome_marks (depth : Nat) (code : Code) :
    (code.marks depth).map Option.isSome = (code.marks 0).map Option.isSome := by
  rw [marks_eq_moveIn, moveIn, List.map_map]
  congr 1
  funext m
  cases m <;> rfl

/-- The lines and gaps of a piece in order: `true` for a line, whatever it says. -/
def shape (code : Code) : List Bool := (code.marks 0).map Option.isSome

@[simp] theorem shape_empty : empty.shape = [] := rfl

@[simp] theorem shape_line (text : String) : (line text).shape = [true] := rfl

@[simp] theorem shape_gap : gap.shape = [false] := rfl

@[simp] theorem shape_indent (inner : Code) : (indent inner).shape = inner.shape :=
  map_isSome_marks 1 inner

@[simp] theorem shape_seq_nil : (seq []).shape = [] := rfl

@[simp] theorem shape_seq_cons (part : Code) (parts : List Code) :
    (seq (part :: parts)).shape = part.shape ++ (seq parts).shape := by
  simp [shape, marks, marksAll]

theorem shape_seq (parts : List Code) : (seq parts).shape = parts.flatMap shape := by
  induction parts with
  | nil => rfl
  | cons part parts ih => rw [shape_seq_cons, ih, List.flatMap_cons]

@[simp] theorem shape_seq_append (as bs : List Code) :
    (seq (as ++ bs)).shape = (seq as).shape ++ (seq bs).shape := by
  simp only [shape_seq, List.flatMap_append]

@[simp] theorem shape_block (opening : String) (body : Code) (closing : String) :
    (block opening body closing).shape = true :: (body.shape ++ [true]) := by
  simp [block]

@[simp] theorem shape_when (condition : Bool) (piece : Code) :
    (when condition piece).shape = if condition then piece.shape else [] := by
  cases condition <;> rfl

/-- What a line or a gap adds to the lines that are written, if only those that are not empty are
told from those that are.  The last line comes first. -/
def addFlag (written : List Bool) : Bool → List Bool
  | true => true :: written
  | false =>
    match written with
    | [] => []
    | last :: before => if last then false :: last :: before else last :: before

theorem map_addMark {written : List String} {mark : Option (Nat × String)}
    (h : ∀ m ∈ mark, indented m.1 m.2 ≠ "") :
    (addMark written mark).map (fun l => decide (l ≠ "")) =
      addFlag (written.map fun l => decide (l ≠ "")) mark.isSome := by
  cases mark with
  | some m =>
    have hline : decide (indented m.1 m.2 ≠ "") = true := decide_eq_true (h m rfl)
    rw [addMark, List.map_cons, hline]
    rfl
  | none =>
    cases written with
    | nil => rfl
    | cons last before => by_cases hlast : last = "" <;> simp [addMark, addGap, addFlag, hlast]

theorem map_foldl_addMark {marks : List (Option (Nat × String))}
    (h : ∀ mark ∈ marks, ∀ m ∈ mark, indented m.1 m.2 ≠ "") (written : List String) :
    (marks.foldl addMark written).map (fun l => decide (l ≠ "")) =
      (marks.map Option.isSome).foldl addFlag (written.map fun l => decide (l ≠ "")) := by
  induction marks generalizing written with
  | nil => rfl
  | cons mark marks ih =>
    rw [List.foldl_cons, ih fun n hn => h n (List.mem_cons_of_mem mark hn),
      map_addMark (h mark List.mem_cons_self)]
    rfl

/-- A line that is moved in is not empty, and neither is one that says something. -/
theorem indented_ne_empty {code : Code} (h : "" ∉ code.topTexts) {m : Nat × String}
    (hm : m ∈ code.lines 0) : indented m.1 m.2 ≠ "" := by
  intro hempty
  have hlist : List.replicate (2 * m.1) ' ' ++ m.2.toList = [] := by
    rw [← toList_indented, hempty]
    rfl
  obtain ⟨hspaces, htext⟩ := List.append_eq_nil_iff.mp hlist
  have hdepth : 2 * m.1 = 0 := by simpa using hspaces
  have hzero : m.1 = 0 := by omega
  have htext : m.2 = "" := String.toList_injective (by simpa using htext)
  exact h (List.mem_map.mpr ⟨m, List.mem_filter.mpr ⟨hm, by simpa using hzero⟩, htext⟩)

/-- How many lines a piece has depends only on the order of its lines and gaps. -/
theorem length_toLines {code : Code} (h : "" ∉ code.topTexts) :
    code.toLines.length = ((code.shape.foldl addFlag []).dropWhile (!·)).length := by
  have hmarks : ∀ mark ∈ code.marks 0, ∀ m ∈ mark, indented m.1 m.2 ≠ "" := fun mark hmark m hm =>
    indented_ne_empty h (List.mem_filterMap.mpr ⟨mark, hmark, hm⟩)
  have hflags := map_foldl_addMark hmarks []
  rw [List.map_nil] at hflags
  rw [toLines, List.length_reverse, emit_eq_foldl, shape, ← hflags, List.dropWhile_map,
    List.length_map]
  congr 2
  funext l
  simp

theorem length_sourceLines_render {code : Code} (h : code.FeedFree) :
    (sourceLines code.render).length = max 1 code.toLines.length + 1 := by
  by_cases hempty : code.toLines = []
  · rw [render, hempty]
    rfl
  · have hpos : 0 < code.toLines.length := List.length_pos_of_ne_nil hempty
    rw [render, Text.sourceLines_intercalate hempty h.toLines, List.length_append,
      List.length_singleton, Nat.max_eq_right hpos]

/-- Pieces with lines and gaps in the same order have texts with as many lines. -/
theorem length_sourceLines_eq {c d : Code} (hc : c.FeedFree) (hd : d.FeedFree)
    (hctop : "" ∉ c.topTexts) (hdtop : "" ∉ d.topTexts) (h : c.shape = d.shape) :
    (sourceLines c.render).length = (sourceLines d.render).length := by
  rw [length_sourceLines_render hc, length_sourceLines_render hd, length_toLines hctop,
    length_toLines hdtop, h]

end Code

end FormScaffold
