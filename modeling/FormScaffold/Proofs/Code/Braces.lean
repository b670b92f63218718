import FormScaffold.Proofs.Code.Lines
import FormScaffold.Text.Quoted

/-!
# Braces and literals

Generated source is read from left to right, with braces counted and double-quoted literals
skipped.  `Balanced` says that no brace is closed that was not opened, that all are closed in the
end, and that every literal ends on its line.  It follows from what each line does to the number
of open braces: `Turns t m n` says that the line `t`, read with `m` braces open, leaves `n`.
-/

namespace FormScaffold

/-- Where a reader stands: outside literals, inside one, or behind a backslash inside one; always
with the number of braces that are open. -/
inductive BraceReader where
  | code (depth : Nat)
  | literal (depth : Nat)
  | escape (depth : Nat)
deriving DecidableEq, Repr

namespace BraceReader

/-- Where the reader stands after a closing brace, if there is one to close. -/
def close : Nat → Option BraceReader
  | 0 => none
  | depth + 1 => some (code depth)

/-- Where the reader stands after a character, if it may stand there. -/
def step : BraceReader → Char → Option BraceReader
  | code depth, c =>
    if c = '\x22' then some (literal depth)
    else if c = '\x7b' then some (code (depth + 1))
    else if c = '\x7d' then close depth
    else some (code depth)
  | literal depth, c =>
    if c = '\n' then none
    else if c = '\x22' then some (code depth)
    else if c = '\\' then some (escape depth)
    else some (literal depth)
  | escape depth, c => if c = '\n' then none else some (literal depth)

/-- Where the reader stands after a text. -/
def run (reader : BraceReader) : List Char → Option BraceReader
  | [] => some reader
  | c :: cs => (reader.step c).bind fun next => run next cs

/-- The text closes every brace and every literal that it opens, and no other. -/
def Balanced (s : String) : Prop := run (code 0) s.toList = some (code 0)

theorem run_append (reader : BraceReader) (as bs : List Char) :
    run reader (as ++ bs) = (run reader as).bind fun next => run next bs := by
  induction as generalizing reader with
  | nil => rfl
  | cons a as ih =>
    rw [List.cons_append, run, run, Option.bind_assoc]
    exact congrArg _ (funext fun next => ih next)

/-! ## Braces around a text -/

/-- The reader with further open braces around it. -/
def lift (k : Nat) : BraceReader → BraceReader
  | code depth => code (depth + k)
  | literal depth => literal (depth + k)
  | escape depth => escape (depth + k)

theorem close_lift {depth : Nat} {next : BraceReader} (h : close depth = some next) (k : Nat) :
    close (depth + k) = some (next.lift k) := by
  cases depth with
  | zero => simp [close] at h
  | succ depth =>
    obtain rfl : code depth = next := Option.some.inj h
    rw [Nat.succ_add, close, lift]

theorem step_lift {reader next : BraceReader} {c : Char} (h : reader.step c = some next)
    (k : Nat) : (reader.lift k).step c = some (next.lift k) := by
  cases reader with
  | code depth =>
    by_cases hc : c = '\x7d'
    · subst hc
      exact close_lift h k
    · grind [step, lift]
  | literal depth => grind [step, lift]
  | escape depth => grind [step, lift]

theorem run_lift {reader next : BraceReader} {cs : List Char} (h : run reader cs = some next)
    (k : Nat) : run (reader.lift k) cs = some (next.lift k) := by
  induction cs generalizing reader with
  | nil => exact congrArg (fun r => some (lift k r)) (Option.some.inj h)
  | cons c cs ih =>
    rw [run, Option.bind_eq_some_iff] at h
    obtain ⟨mid, hstep, hrun⟩ := h
    rw [run, step_lift hstep k, Option.bind_some, ih hrun]

/-- A character that neither opens nor closes anything. -/
def isPlain (c : Char) : Bool := !(['\x22', '\x7b', '\x7d', '\n'].contains c)

theorem run_of_plain {cs : List Char} (h : cs.all isPlain) (depth : Nat) :
    run (code depth) cs = some (code depth) := by
  induction cs with
  | nil => rfl
  | cons c cs ih =>
    rw [List.all_cons, Bool.and_eq_true] at h
    have hstep : (code depth).step c = some (code depth) := by
      have hc := h.1
      simp only [isPlain, Bool.not_eq_true', List.contains_eq_mem, decide_eq_false_iff_not,
        List.mem_cons, not_or] at hc
      simp [step, hc]
    rw [run, hstep, Option.bind_some, ih h.2]

/-- A text whose characters are all plain. -/
def Plain (s : String) : Prop := s.toList.all isPlain = true

instance (s : String) : Decidable (Plain s) := inferInstanceAs (Decidable (_ = true))

namespace Plain

variable {s t : String}

theorem append (hs : Plain s) (ht : Plain t) : Plain (s ++ t) := by
  rw [Plain, String.toList_append, List.all_append, hs, ht, Bool.and_self]

theorem intercalate {ss : List String} (ht : Plain t) (h : ∀ s ∈ ss, Plain s) :
    Plain (t.intercalate ss) := by
  refine List.all_eq_true.mpr fun c hc => ?_
  rw [String.toList_intercalate] at hc
  rcases Text.mem_intercalate hc with hc | ⟨piece, hpiece, hc⟩
  · exact List.all_eq_true.mp ht c hc
  · obtain ⟨s, hs, rfl⟩ := List.mem_map.mp hpiece
    exact List.all_eq_true.mp (h s hs) c hc

end Plain

/-! ## Lines -/

/-- The text stays on its line and takes the reader from one place to another. -/
def Reads (s : String) (reader next : BraceReader) : Prop :=
  run reader s.toList = some next ∧ '\n' ∉ s.toList

instance (s : String) (reader next : BraceReader) : Decidable (Reads s reader next) :=
  inferInstanceAs (Decidable (_ ∧ _))

namespace Reads

variable {s t : String} {a b c : BraceReader}

theorem append (hs : Reads s a b) (ht : Reads t b c) : Reads (s ++ t) a c := by
  refine ⟨?_, ?_⟩
  · rw [String.toList_append, run_append, hs.1, Option.bind_some, ht.1]
  · rw [String.toList_append, List.mem_append, not_or]
    exact ⟨hs.2, ht.2⟩

theorem lift (h : Reads s a b) (k : Nat) : Reads s (a.lift k) (b.lift k) := ⟨run_lift h.1 k, h.2⟩

end Reads

/-- Read with `m` open braces, the text stays on its line and leaves `n` open. -/
abbrev Turns (s : String) (m n : Nat) : Prop := Reads s (code m) (code n)

namespace Turns

variable {s t u : String} {m n : Nat}

/-- Only the end of the text opens or closes braces. -/
theorem append (hs : Turns s m m) (ht : Turns t m n) : Turns (s ++ t) m n := Reads.append hs ht

theorem between (hs : Turns s m m) (ht : Turns t m m) (hu : Turns u m n) :
    Turns (s ++ t ++ u) m n := (hs.append ht).append hu

theorem within (h : Turns s 0 0) (m : Nat) : Turns s m m := by
  have hm : Turns s (0 + m) (0 + m) := h.lift m
  rwa [Nat.zero_add] at hm

end Turns

theorem Plain.turns {s : String} (h : Plain s) (m : Nat) : Turns s m m :=
  ⟨run_of_plain h m, fun hfeed => by simpa [isPlain] using List.all_eq_true.mp h '\n' hfeed⟩

/-! ## Quoted texts -/

/-- A character stays inside its literal when it is escaped. -/
theorem run_escape (c : Char) (depth : Nat) :
    run (literal depth) (Quoted.escape c) = some (literal depth) := by
  unfold Quoted.escape
  split
  all_goals try rfl
  next hquote hslash hfeed _ _ =>
    have hstep : (literal depth).step c = some (literal depth) := by
      rw [step, if_neg (hfeed ·), if_neg (hquote ·), if_neg (hslash ·)]
    rw [run, hstep]
    rfl

theorem run_flatMap_escape (cs : List Char) (depth : Nat) :
    run (literal depth) (cs.flatMap Quoted.escape) = some (literal depth) := by
  induction cs with
  | nil => rfl
  | cons c cs ih => rw [List.flatMap_cons, run_append, run_escape, Option.bind_some, ih]

theorem feed_notMem_escape (c : Char) : '\n' ∉ Quoted.escape c := by
  unfold Quoted.escape
  split
  all_goals try decide
  next hfeed _ _ => exact fun h => hfeed (List.mem_singleton.mp h).symm

theorem turns_literal (s : String) (m : Nat) : Turns (Quoted.literal s) m m := by
  have hlist : (Quoted.literal s).toList =
      '\x22' :: (s.toList.flatMap Quoted.escape ++ ['\x22']) := by
    rw [Quoted.literal, String.toList_ofList, Quoted.literalChars]
  refine ⟨?_, ?_⟩
  · rw [hlist]
    change run (literal m) (s.toList.flatMap Quoted.escape ++ ['\x22']) = _
    rw [run_append, run_flatMap_escape]
    rfl
  · rw [hlist]
    simp only [List.mem_cons, List.mem_append, List.mem_flatMap, List.not_mem_nil, or_false]
    rintro (h | ⟨c, -, h⟩ | h)
    · exact absurd h (by decide)
    · exact feed_notMem_escape c h
    · exact absurd h (by decide)

theorem turns_braced {s : String} {m : Nat} (h : Turns s (m + 1) (m + 1)) :
    Turns (Quoted.braced s) m m := by
  have hopen : Turns "\x7b" m (m + 1) := ⟨rfl, by decide⟩
  have hclose : Turns "\x7d" (m + 1) m := ⟨rfl, by decide⟩
  exact (Reads.append hopen h).append hclose

/-- A text that can stand between double quotes as it is. -/
def Quotable (s : String) : Prop := ∀ c ∈ s.toList, Quoted.endsAttribute c = false

instance (s : String) : Decidable (Quotable s) :=
  List.decidableBAll (fun c => Quoted.endsAttribute c = false) s.toList

theorem run_of_quotable {cs : List Char} (h : ∀ c ∈ cs, Quoted.endsAttribute c = false)
    (depth : Nat) : run (literal depth) cs = some (literal depth) := by
  induction cs with
  | nil => rfl
  | cons c cs ih =>
    have hc := h c List.mem_cons_self
    simp only [Quoted.endsAttribute, List.contains_eq_mem, decide_eq_false_iff_not,
      List.mem_cons, List.not_mem_nil, or_false, not_or] at hc
    have hstep : (literal depth).step c = some (literal depth) := by simp [step, hc]
    rw [run, hstep, Option.bind_some, ih fun d hd => h d (List.mem_cons_of_mem c hd)]

/-- Such a text does not end the literal in which it stands. -/
theorem Quotable.reads {s : String} (h : Quotable s) (m : Nat) :
    Reads s (literal m) (literal m) :=
  ⟨run_of_quotable h m, fun hfeed => absurd (h _ hfeed) (by decide)⟩

theorem Quotable.turns_between {s opening closing : String} {m n : Nat} (h : Quotable s)
    (ho : Reads opening (code m) (literal m)) (hc : Reads closing (literal m) (code n)) :
    Turns (opening ++ s ++ closing) m n := (ho.append (h.reads m)).append hc

theorem turns_attributeValue (s : String) (m : Nat) : Turns (Quoted.attributeValue s) m m := by
  rw [Quoted.attributeValue]
  split
  · exact turns_braced (turns_literal s (m + 1))
  · next h =>
    have hs : Quotable s := by simpa [Quotable] using h
    exact hs.turns_between ⟨rfl, by decide⟩ ⟨rfl, by decide⟩

theorem turns_childText (s : String) (m : Nat) : Turns (Quoted.childText s) m m := by
  rw [Quoted.childText]
  split
  · exact turns_braced (turns_literal s (m + 1))
  · next h =>
    refine Plain.turns (List.all_eq_true.mpr fun c hc => ?_) m
    have hs : Quoted.endsChildText c = false := by
      simp only [List.any_eq_true, not_exists, not_and, Bool.not_eq_true] at h
      exact h c hc
    simp only [Quoted.endsChildText, isPlain, List.contains_eq_mem, decide_eq_false_iff_not,
      List.mem_cons, not_or, Bool.not_eq_true'] at hs ⊢
    simp [hs]

/-! ## Line by line -/

/-- The characters of some lines, each ended with a line feed. -/
def feeds (lines : List String) : List Char := lines.flatMap fun t => t.toList ++ ['\n']

theorem run_feeds_cons (reader : BraceReader) (t : String) (lines : List String) :
    run reader (feeds (t :: lines)) =
      (run reader (t.toList ++ ['\n'])).bind fun next => run next (feeds lines) := by
  rw [feeds, List.flatMap_cons, run_append]
  rfl

theorem feeds_append (as bs : List String) : feeds (as ++ bs) = feeds as ++ feeds bs :=
  List.flatMap_append

/-- Lines that are joined with line feeds, with one more at the end. -/
theorem toList_intercalate_feed {lines : List String} (hne : lines ≠ []) :
    ("\n".intercalate lines ++ "\n").toList = feeds lines := by
  induction lines with
  | nil => exact absurd rfl hne
  | cons t lines ih =>
    cases lines with
    | nil => simp [feeds]
    | cons u lines =>
      have ih := ih (List.cons_ne_nil u lines)
      rw [String.intercalate_cons_cons, String.append_assoc, String.toList_append, ih]
      simp [feeds]

/-- Behind a line feed no literal is open. -/
theorem exists_code_of_run_feed {reader next : BraceReader} {cs : List Char}
    (h : run reader (cs ++ ['\n']) = some next) : ∃ depth, next = code depth := by
  rw [run_append, Option.bind_eq_some_iff] at h
  obtain ⟨mid, -, hfeed⟩ := h
  cases mid with
  | code depth => exact ⟨depth, (Option.some.inj hfeed).symm⟩
  | literal depth => exact absurd hfeed (by simp [run, step])
  | escape depth => exact absurd hfeed (by simp [run, step])

/-- Spaces in front of a line change nothing. -/
theorem run_indented (depth m : Nat) (t : String) (cs : List Char) :
    run (code m) ((Code.indented depth t).toList ++ cs) = run (code m) (t.toList ++ cs) := by
  have hspaces : run (code m) (List.replicate (2 * depth) ' ') = some (code m) :=
    run_of_plain (List.all_eq_true.mpr fun c hc => by rw [List.eq_of_mem_replicate hc]; rfl) m
  rw [Code.toList_indented, List.append_assoc, run_append, hspaces, Option.bind_some]

theorem run_feeds_indented (lines : List (Nat × String)) (m : Nat) :
    run (code m) (feeds (lines.map fun l => Code.indented l.1 l.2)) =
      run (code m) (feeds (lines.map (·.2))) := by
  induction lines generalizing m with
  | nil => rfl
  | cons l lines ih =>
    rw [List.map_cons, List.map_cons, run_feeds_cons, run_feeds_cons, run_indented]
    cases h : run (code m) (l.2.toList ++ ['\n']) with
    | none => rfl
    | some next =>
      obtain ⟨depth, rfl⟩ := exists_code_of_run_feed h
      exact ih depth

/-- Empty lines change nothing. -/
theorem run_feeds_filter (lines : List String) (m : Nat) :
    run (code m) (feeds (lines.filter (· ≠ ""))) = run (code m) (feeds lines) := by
  induction lines generalizing m with
  | nil => rfl
  | cons t lines ih =>
    rw [run_feeds_cons]
    by_cases ht : t = ""
    · rw [List.filter_cons_of_neg (by simpa using ht), ih, ht]
      rfl
    · rw [List.filter_cons_of_pos (by simpa using ht), run_feeds_cons]
      cases h : run (code m) (t.toList ++ ['\n']) with
      | none => rfl
      | some next =>
        obtain ⟨depth, rfl⟩ := exists_code_of_run_feed h
        exact ih depth

end BraceReader

/-! ## Pieces of source -/

namespace Code

open BraceReader (run feeds run_append run_feeds_cons feeds_append)

/-- Read line by line with `m` open braces, the piece leaves `n` open. -/
def Turns (code : Code) (m n : Nat) : Prop :=
  run (.code m) (feeds code.texts) = some (.code n) ∧ code.FeedFree

instance (code : Code) (m n : Nat) : Decidable (code.Turns m n) :=
  inferInstanceAs (Decidable (_ ∧ ∀ t ∈ code.texts, _))

namespace Turns

variable {code : Code} {parts : List Code} {k l m n : Nat}

theorem empty (m : Nat) : Turns .empty m m := ⟨rfl, by simp [FeedFree]⟩

theorem gap (m : Nat) : Turns .gap m m := ⟨rfl, by simp [FeedFree]⟩

theorem nil (m : Nat) : Turns (.seq []) m m := ⟨rfl, by simp [FeedFree]⟩

theorem line {t : String} (h : BraceReader.Turns t m n) : Turns (.line t) m n := by
  refine ⟨?_, by simpa [FeedFree] using h.2⟩
  rw [texts_line, run_feeds_cons, run_append, h.1]
  rfl

theorem seq_cons (h : code.Turns m k) (hs : Turns (.seq parts) k n) :
    Turns (.seq (code :: parts)) m n := by
  refine ⟨?_, ?_⟩
  · rw [texts_seq_cons, feeds_append, run_append, h.1, Option.bind_some, hs.1]
  · intro t ht
    rw [texts_seq_cons] at ht
    rcases List.mem_append.mp ht with ht | ht
    · exact h.2 t ht
    · exact hs.2 t ht

theorem cons (h : code.Turns m m) (hs : Turns (.seq parts) m n) :
    Turns (.seq (code :: parts)) m n := seq_cons h hs

theorem indent (h : code.Turns m n) : Turns (.indent code) m n := by
  rw [Turns, FeedFree, texts_indent]
  exact h

theorem block {opening closing : String} (ho : BraceReader.Turns opening m k)
    (hbody : code.Turns k l) (hc : BraceReader.Turns closing l n) :
    Turns (.block opening code closing) m n :=
  seq_cons (.line ho) (seq_cons hbody.indent (seq_cons (.line hc) (.nil n)))

/-- A block whose first and last lines are tags. -/
theorem element {opening closing : String} (ho : BraceReader.Turns opening m m)
    (hbody : code.Turns m m) (hc : BraceReader.Turns closing m m) :
    Turns (.block opening code closing) m m := block ho hbody hc

/-- A block in braces. -/
theorem braces {opening closing : String} (ho : BraceReader.Turns opening m (m + 1))
    (hbody : code.Turns (m + 1) (m + 1)) (hc : BraceReader.Turns closing (m + 1) n) :
    Turns (.block opening code closing) m n := block ho hbody hc

theorem when {condition : Bool} (h : condition = true → code.Turns m m) :
    Turns (.when condition code) m m := by
  cases condition with
  | true => exact h rfl
  | false => exact .empty m

theorem seq (h : ∀ part ∈ parts, part.Turns m m) : Turns (.seq parts) m m := by
  induction parts with
  | nil => exact .nil m
  | cons part parts ih =>
    exact .cons (h part List.mem_cons_self) (ih fun p hp => h p (List.mem_cons_of_mem part hp))

/-- Further open braces around the piece stay open. -/
theorem lift (h : code.Turns m n) (k : Nat) : code.Turns (m + k) (n + k) :=
  ⟨BraceReader.run_lift h.1 k, h.2⟩

/-- A piece that leaves no brace open can stand at any depth. -/
theorem within (h : code.Turns 0 0) (m : Nat) : code.Turns m m := by
  have hm := h.lift m
  rwa [Nat.zero_add] at hm

end Turns

/-- The text of a piece that leaves no brace open is balanced. -/
theorem balanced_render {code : Code} (h : code.Turns 0 0) : BraceReader.Balanced code.render := by
  have hlines : run (.code 0) (feeds code.toLines) = some (.code 0) := by
    rw [← BraceReader.run_feeds_filter, filter_toLines, BraceReader.run_feeds_filter,
      BraceReader.run_feeds_indented]
    exact h.1
  rw [BraceReader.Balanced, render]
  by_cases hempty : code.toLines = []
  · rw [hempty]
    rfl
  · rw [BraceReader.toList_intercalate_feed hempty, hlines]

end Code

end FormScaffold
