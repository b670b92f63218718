import Mathlib.Data.List.Basic
import FormScaffold.Proofs.Text.Split
import FormScaffold.Text.Quoted

/-!
# Reading quoted texts

A literal in generated source ends where its text ends, whatever stands behind it: a reader that
knows the five escapes gets the text back and stops after the closing quote
(`readLiteral?_literal`).  The same holds of attribute values and of child text that is put into
braces, and all other child text is free of the characters that have a meaning in markup
(`quoting_reversible`).
-/

namespace FormScaffold.Quoted

/-! ## Texts without escapes -/

theorem escape_eq_singleton {c : Char} (h : c ∉ ['\x22', '\\', '\n', '\r', '\t']) :
    escape c = [c] := by
  simp only [List.mem_cons, List.not_mem_nil, or_false, not_or] at h
  obtain ⟨hquote, hslash, hfeed, hreturn, htab⟩ := h
  simp [escape]

/-- A text without characters that are escaped stands in its literal as it is. -/
theorem toList_literal {s : String} (h : ∀ c ∈ s.toList, escape c = [c]) :
    (literal s).toList = '\x22' :: (s.toList ++ ['\x22']) := by
  have hescape : s.toList.flatMap escape = s.toList := by
    calc s.toList.flatMap escape
      _ = s.toList.flatMap fun c => [c] := List.flatMap_congr h
      _ = s.toList := List.flatMap_singleton' _
  rw [literal, String.toList_ofList, literalChars, hescape]

theorem isInfix_literal {s : String} (h : ∀ c ∈ s.toList, escape c = [c]) :
    s.toList <:+: (literal s).toList := by
  rw [toList_literal h]
  exact ⟨['\x22'], ['\x22'], rfl⟩

/-! ## The reader -/

/-- The character that a letter after a backslash stands for. -/
def escapeMeaning? : Char → Option Char
  | '\x22' => some '\x22'
  | '\\' => some '\\'
  | 'n' => some '\n'
  | 'r' => some '\r'
  | 't' => some '\t'
  | _ => none

/-- Reads a literal behind its opening quote: its characters, and what stands behind it. -/
def readChars? : List Char → Option (List Char × List Char)
  | [] => none
  | '\x22' :: rest => some ([], rest)
  | ['\\'] => none
  | '\\' :: e :: rest =>
    (escapeMeaning? e).bind fun c => (readChars? rest).map (Prod.map (c :: ·) id)
  | c :: rest =>
    if c = '\n' ∨ c = '\r' then none else (readChars? rest).map (Prod.map (c :: ·) id)

/-- Reads a double-quoted literal. -/
def readLiteral? : List Char → Option (List Char × List Char)
  | '\x22' :: rest => readChars? rest
  | _ => none

theorem readChars?_escape (c : Char) (rest : List Char) :
    readChars? (escape c ++ rest) = (readChars? rest).map (Prod.map (c :: ·) id) := by
  unfold escape
  split
  case h_6 hquote hslash hfeed hreturn _ =>
    rw [List.singleton_append, readChars?, if_neg (not_or.mpr ⟨hfeed, hreturn⟩)]
    · exact hquote
    · exact fun h _ => hslash h
    · exact fun _ _ h _ => hslash h
  all_goals rfl

theorem readChars?_flatMap_escape (cs rest : List Char) :
    readChars? (cs.flatMap escape ++ '\x22' :: rest) = some (cs, rest) := by
  induction cs with
  | nil => rfl
  | cons c cs ih =>
    rw [List.flatMap_cons, List.append_assoc, readChars?_escape, ih]
    rfl

/-- A literal is read up to its closing quote. -/
theorem readLiteral?_literal (s : String) (rest : List Char) :
    readLiteral? ((literal s).toList ++ rest) = some (s.toList, rest) := by
  rw [literal, String.toList_ofList, literalChars, List.cons_append, List.append_assoc,
    List.singleton_append]
  exact readChars?_flatMap_escape s.toList rest

/-- Where two literals begin, the same text follows only from the same literals. -/
theorem literal_append_inj {s t u v : String} (h : literal s ++ u = literal t ++ v) :
    s = t ∧ u = v := by
  have hread := congrArg (fun w : String => readLiteral? w.toList) h
  simp only [String.toList_append, readLiteral?_literal, Option.some.injEq, Prod.mk.injEq,
    String.toList_inj] at hread
  exact hread

/-! ## Attribute values and child text -/

/-- Reads a literal in braces. -/
def readBraced? : List Char → Option (List Char × List Char)
  | '\x7b' :: rest =>
    match readLiteral? rest with
    | some (value, '\x7d' :: behind) => some (value, behind)
    | _ => none
  | _ => none

/-- Reads the value of an attribute: up to the next double quote, or a literal in braces. -/
def readAttribute? : List Char → Option (List Char × List Char)
  | '\x22' :: rest => Text.cutFirst (· = '\x22') rest
  | cs => readBraced? cs

theorem toList_braced_append (s : String) (rest : List Char) :
    (braced s).toList ++ rest = '\x7b' :: (s.toList ++ '\x7d' :: rest) := by
  simp [braced]

/-- A literal in braces is read up to its closing brace. -/
theorem readBraced?_literal (s : String) (rest : List Char) :
    readBraced? ((braced (literal s)).toList ++ rest) = some (s.toList, rest) := by
  rw [toList_braced_append, readBraced?, readLiteral?_literal]
  rfl

/-- The value of an attribute is read up to what ends it. -/
theorem readAttribute?_attributeValue (s : String) (rest : List Char) :
    readAttribute? ((attributeValue s).toList ++ rest) = some (s.toList, rest) := by
  rw [attributeValue]
  split
  · rw [← readBraced?_literal s rest, toList_braced_append]
    rfl
  · next hplain =>
    have hquote : ∀ c ∈ s.toList, decide (c = '\x22') = false := by
      intro c hc
      refine decide_eq_false ?_
      rintro rfl
      exact hplain (List.any_eq_true.mpr ⟨'\x22', hc, by decide⟩)
    have htoList : ("\x22" ++ s ++ "\x22").toList ++ rest =
        '\x22' :: (s.toList ++ '\x22' :: rest) := by
      simp
    rw [htoList, readAttribute?]
    exact Text.cutFirst_append_cons hquote rfl rest

theorem lineEnd_notMem_escape (c : Char) : '\n' ∉ escape c ∧ '\r' ∉ escape c := by
  unfold escape
  split
  case h_6 hfeed hreturn _ =>
    rw [List.mem_singleton, List.mem_singleton]
    exact ⟨fun h => hfeed h.symm, fun h => hreturn h.symm⟩
  all_goals decide

/-- A literal stands within one line. -/
theorem lineEnd_notMem_literal (s : String) :
    '\n' ∉ (literal s).toList ∧ '\r' ∉ (literal s).toList := by
  have hchar : ∀ c ∈ (literal s).toList, c = '\x22' ∨ ∃ d, c ∈ escape d := by
    intro c hc
    rw [literal, String.toList_ofList, literalChars, List.mem_cons, List.mem_append,
      List.mem_singleton, List.mem_flatMap] at hc
    rcases hc with hquote | ⟨d, -, hd⟩ | hquote
    · exact .inl hquote
    · exact .inr ⟨d, hd⟩
    · exact .inl hquote
  constructor
  · intro hfeed
    rcases hchar _ hfeed with hquote | ⟨d, hd⟩
    · exact absurd hquote (by decide)
    · exact (lineEnd_notMem_escape d).1 hd
  · intro hreturn
    rcases hchar _ hreturn with hquote | ⟨d, hd⟩
    · exact absurd hquote (by decide)
    · exact (lineEnd_notMem_escape d).2 hd

/-- Whatever stands behind it, a literal and the value of an attribute are read back and end where
they were ended; so is child text in braces, and child text without braces is the text itself,
without any character that ends it. -/
theorem quoting_reversible (s : String) :
    (∀ rest, readLiteral? ((literal s).toList ++ rest) = some (s.toList, rest)) ∧
    ('\n' ∉ (literal s).toList ∧ '\r' ∉ (literal s).toList) ∧
    (∀ rest, readAttribute? ((attributeValue s).toList ++ rest) = some (s.toList, rest)) ∧
    ((∀ rest, readBraced? ((childText s).toList ++ rest) = some (s.toList, rest)) ∨
      (childText s = s ∧
        ∀ c ∈ ['\x7b', '\x7d', '<', '>', '\x22', '\\', '\n'], c ∉ s.toList)) := by
  refine ⟨readLiteral?_literal s, lineEnd_notMem_literal s, readAttribute?_attributeValue s, ?_⟩
  rw [childText]
  split
  · exact .inl (readBraced?_literal s)
  · next hplain =>
    refine .inr ⟨rfl, fun c hc hmem => ?_⟩
    exact hplain (List.any_eq_true.mpr ⟨c, hmem, List.contains_iff_mem.mpr hc⟩)

end FormScaffold.Quoted
