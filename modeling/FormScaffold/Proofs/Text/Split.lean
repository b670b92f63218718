import Mathlib.Data.List.Chain
import FormScaffold.Text.Split

/-!
# Cutting and joining

Cutting at a separator undoes joining with it, as long as no piece holds the separator.  The lines
of a source text are its pieces between line feeds, and the search for a text is the search for
its characters in one run.
-/

namespace FormScaffold.Text

/-! ## Characters -/

/-- A property of the characters of a text is decided along the text. -/
theorem forall_mem_of_all {p : Char → Prop} [DecidablePred p] {cs : List Char}
    (h : cs.all (fun c => decide (p c)) = true) : ∀ c ∈ cs, p c :=
  fun c hc => of_decide_eq_true (List.all_eq_true.mp h c hc)

/-! ## Separators -/

section Separators

variable {sep : Char → Bool}

/-- A text without a separator is one piece. -/
theorem split_of_forall {cs : List Char} (h : ∀ c ∈ cs, sep c = false) : split sep cs = [cs] := by
  induction cs with
  | nil => rfl
  | cons c cs ih =>
    have hc : sep c = false := h c List.mem_cons_self
    have hcs : split sep cs = [cs] := ih fun d hd => h d (List.mem_cons_of_mem c hd)
    simp [split, hc, hcs]

theorem split_ne_nil (cs : List Char) : split sep cs ≠ [] := by
  induction cs with
  | nil => simp [split]
  | cons c cs ih =>
    simp only [split]
    split
    · exact List.cons_ne_nil _ _
    · split <;> exact List.cons_ne_nil _ _

/-- Cutting goes on behind a separator as if the text began there. -/
theorem split_append_sep (a : List Char) {c : Char} (hc : sep c = true) (b : List Char) :
    split sep (a ++ c :: b) = split sep a ++ split sep b := by
  induction a with
  | nil => simp [split, hc]
  | cons d a ih =>
    rw [List.cons_append, split, split, ih]
    split
    · rfl
    · cases h : split sep a with
      | nil => exact absurd h (split_ne_nil a)
      | cons p ps => rfl

/-- The first separator ends the first piece. -/
theorem split_append_cons {a : List Char} (ha : ∀ c ∈ a, sep c = false) {c : Char}
    (hc : sep c = true) (b : List Char) : split sep (a ++ c :: b) = a :: split sep b := by
  rw [split_append_sep a hc b, split_of_forall ha, List.singleton_append]

/-- What stands before the first separator is part of the first piece. -/
theorem split_append_of_forall {a : List Char} (ha : ∀ c ∈ a, sep c = false) {b p : List Char}
    {ps : List (List Char)} (hb : split sep b = p :: ps) : split sep (a ++ b) = (a ++ p) :: ps := by
  induction a with
  | nil => exact hb
  | cons d a ih =>
    have hd : sep d = false := ha d List.mem_cons_self
    rw [List.cons_append, split, if_neg (by simp [hd]), ih fun e he => ha e (List.mem_cons_of_mem d he)]
    rfl

/-- Without what is cut away, as many characters are left. -/
theorem length_intercalate_split (x : Char) (cs : List Char) :
    ([x].intercalate (split sep cs)).length = cs.length := by
  induction cs with
  | nil => rfl
  | cons c cs ih =>
    rw [split]
    cases h : split sep cs with
    | nil => exact absurd h (split_ne_nil cs)
    | cons p ps =>
      rw [h] at ih
      split
      · rw [List.intercalate_cons_cons, List.nil_append, List.singleton_append, List.length_cons,
          List.length_cons, ih]
      · cases ps with
        | nil => simpa using ih
        | cons q ps =>
          rw [List.intercalate_cons_cons, List.append_assoc] at ih ⊢
          rw [List.cons_append, List.length_cons, List.length_cons, ih]

/-- The characters of a piece are characters of the text that are no separators. -/
theorem mem_of_mem_split {cs p : List Char} (hp : p ∈ split sep cs) {c : Char} (hc : c ∈ p) :
    c ∈ cs ∧ sep c = false := by
  induction cs generalizing p with
  | nil =>
    rw [split, List.mem_singleton] at hp
    exact absurd hc (hp ▸ List.not_mem_nil)
  | cons d cs ih =>
    simp only [split] at hp
    split at hp
    · rcases List.mem_cons.mp hp with rfl | hp
      · exact absurd hc List.not_mem_nil
      · exact ⟨List.mem_cons_of_mem d (ih hp hc).1, (ih hp hc).2⟩
    · next hd =>
      split at hp
      · next heq => exact absurd heq (split_ne_nil cs)
      · next piece pieces heq =>
        rcases List.mem_cons.mp hp with rfl | hp
        · rcases List.mem_cons.mp hc with rfl | hc
          · exact ⟨List.mem_cons_self, eq_false_of_ne_true hd⟩
          · have hpiece : piece ∈ split sep cs := heq ▸ List.mem_cons_self
            exact ⟨List.mem_cons_of_mem d (ih hpiece hc).1, (ih hpiece hc).2⟩
        · have hpiece : p ∈ split sep cs := heq ▸ List.mem_cons_of_mem piece hp
          exact ⟨List.mem_cons_of_mem d (ih hpiece hc).1, (ih hpiece hc).2⟩

theorem isPrefix_of_split_eq_cons {cs p : List Char} {ps : List (List Char)}
    (h : split sep cs = p :: ps) : p <+: cs := by
  induction cs generalizing p ps with
  | nil =>
    rw [split] at h
    exact (List.cons.inj h).1 ▸ List.prefix_rfl
  | cons d cs ih =>
    simp only [split] at h
    split at h
    · rw [← (List.cons.inj h).1]
      exact List.nil_prefix
    · split at h
      · next heq => exact absurd heq (split_ne_nil cs)
      · next piece pieces heq =>
        rw [← (List.cons.inj h).1]
        exact (List.prefix_cons_inj d).mpr (ih heq)

/-- Every piece but the first stands behind a separator. -/
theorem exists_append_of_mem_tail_split {cs p : List Char} (hp : p ∈ (split sep cs).tail) :
    ∃ a c b, sep c = true ∧ cs = a ++ c :: (p ++ b) := by
  induction cs with
  | nil => exact absurd hp List.not_mem_nil
  | cons d cs ih =>
    simp only [split] at hp
    split at hp
    · next hd =>
      cases heq : split sep cs with
      | nil => exact absurd heq (split_ne_nil cs)
      | cons q qs =>
        rw [List.tail_cons, heq] at hp
        rcases List.mem_cons.mp hp with rfl | hp
        · obtain ⟨b, rfl⟩ := isPrefix_of_split_eq_cons heq
          exact ⟨[], d, b, hd, rfl⟩
        · obtain ⟨a, c, b, hc, rfl⟩ := ih (by rw [heq]; exact hp)
          exact ⟨d :: a, c, b, hc, rfl⟩
    · split at hp
      · exact absurd hp List.not_mem_nil
      · next piece pieces heq =>
        obtain ⟨a, c, b, hc, rfl⟩ := ih (by rw [heq]; exact hp)
        exact ⟨d :: a, c, b, hc, rfl⟩

/-- The first separator is the one with none before it. -/
theorem cutFirst_append_cons {a : List Char} (ha : ∀ d ∈ a, sep d = false) {c : Char}
    (hc : sep c = true) (b : List Char) :
    cutFirst sep (a ++ c :: b) = some (a, b) := by
  induction a with
  | nil => simp [cutFirst, hc]
  | cons d a ih =>
    have hd : sep d = false := ha d List.mem_cons_self
    rw [List.cons_append, cutFirst, ih fun e he => ha e (List.mem_cons_of_mem d he)]
    simp [hd]

/-- Where the first separator stands. -/
theorem cutFirst_eq_some_iff {cs a b : List Char} :
    cutFirst sep cs = some (a, b) ↔
      ∃ c, sep c = true ∧ cs = a ++ c :: b ∧ ∀ d ∈ a, sep d = false := by
  constructor
  · intro h
    induction cs generalizing a with
    | nil => simp [cutFirst] at h
    | cons d cs ih =>
      rw [cutFirst] at h
      split at h
      · next hd =>
        obtain ⟨rfl, rfl⟩ := Prod.mk.inj (Option.some.inj h)
        exact ⟨d, hd, rfl, fun e he => absurd he List.not_mem_nil⟩
      · next hd =>
        obtain ⟨⟨before, after⟩, hcut, heq⟩ := Option.map_eq_some_iff.mp h
        obtain ⟨rfl, rfl⟩ := Prod.mk.inj heq
        obtain ⟨c, hc, rfl, hbefore⟩ := ih hcut
        exact ⟨c, hc, rfl, List.forall_mem_cons.mpr ⟨eq_false_of_ne_true hd, hbefore⟩⟩
  · rintro ⟨c, hc, rfl, ha⟩
    exact cutFirst_append_cons ha hc b

theorem cutFirst_eq_none_iff {cs : List Char} :
    cutFirst sep cs = none ↔ ∀ c ∈ cs, sep c = false := by
  induction cs with
  | nil => simp [cutFirst]
  | cons d cs ih =>
    rw [cutFirst]
    split
    · next hd => simp [hd]
    · next hd => simp [hd, ih]

/-- The last separator is the one with none behind it. -/
theorem cutLast_append_cons {c : Char} (hc : sep c = true) {b : List Char}
    (hb : ∀ d ∈ b, sep d = false) (a : List Char) :
    cutLast sep (a ++ c :: b) = some (a, b) := by
  have hnone : cutLast sep b = none := by
    clear hc
    induction b with
    | nil => rfl
    | cons d b ih =>
      rw [cutLast, ih fun e he => hb e (List.mem_cons_of_mem d he)]
      simp [hb d List.mem_cons_self]
  induction a with
  | nil => rw [List.nil_append, cutLast, hnone]; simp [hc]
  | cons d a ih => rw [List.cons_append, cutLast, ih]

theorem eq_append_of_cutLast {cs a b : List Char} (h : cutLast sep cs = some (a, b)) :
    ∃ c, cs = a ++ c :: b := by
  induction cs generalizing a with
  | nil => simp [cutLast] at h
  | cons d cs ih =>
    rw [cutLast] at h
    split at h
    · next before after heq =>
      obtain ⟨rfl, rfl⟩ := Prod.mk.inj (Option.some.inj h)
      obtain ⟨c, rfl⟩ := ih heq
      exact ⟨c, rfl⟩
    · split at h
      · obtain ⟨rfl, rfl⟩ := Prod.mk.inj (Option.some.inj h)
        exact ⟨d, rfl⟩
      · exact absurd h (by simp)

end Separators

/-- Pieces that are joined with a separator come back from cutting at it. -/
theorem split_intercalate {c : Char} {pieces : List (List Char)} (hne : pieces ≠ [])
    (h : ∀ p ∈ pieces, c ∉ p) : split (· = c) ([c].intercalate pieces) = pieces := by
  induction pieces with
  | nil => exact absurd rfl hne
  | cons p pieces ih =>
    have hp : ∀ d ∈ p, decide (d = c) = false := fun d hd =>
      decide_eq_false fun hdc => h p List.mem_cons_self (hdc ▸ hd)
    cases pieces with
    | nil => rw [List.intercalate_singleton, split_of_forall hp]
    | cons q pieces =>
      have ih := ih (List.cons_ne_nil q pieces) fun r hr => h r (List.mem_cons_of_mem p hr)
      rw [List.intercalate_cons_cons, List.append_assoc, List.singleton_append,
        split_append_cons hp (decide_eq_true rfl), ih]

/-- Every piece but the first comes with a separator in front. -/
theorem intercalate_cons (sep p : List Char) (pieces : List (List Char)) :
    sep.intercalate (p :: pieces) = p ++ pieces.flatMap (sep ++ ·) := by
  induction pieces generalizing p with
  | nil => simp
  | cons q pieces ih =>
    rw [List.intercalate_cons_cons, ih, List.flatMap_cons, List.append_assoc, List.append_assoc]

/-- The pieces of a text make it up again. -/
theorem intercalate_split (c : Char) (cs : List Char) :
    [c].intercalate (split (· = c) cs) = cs := by
  induction cs with
  | nil => rfl
  | cons d cs ih =>
    rw [split]
    cases h : split (· = c) cs with
    | nil => exact absurd h (split_ne_nil cs)
    | cons p ps =>
      rw [h] at ih
      split
      · next hd => rw [List.intercalate_cons_cons, List.nil_append, ih, of_decide_eq_true hd]; rfl
      · cases ps with
        | nil => rw [← ih]; rfl
        | cons q ps =>
          rw [← ih]
          rw [List.intercalate_cons_cons, List.intercalate_cons_cons]
          rfl

/-- Every piece stands in the text that joins the pieces. -/
theorem isInfix_intercalate {sep p : List Char} {pieces : List (List Char)} (h : p ∈ pieces) :
    p <:+: sep.intercalate pieces := by
  induction pieces with
  | nil => exact absurd h List.not_mem_nil
  | cons q pieces ih =>
    cases pieces with
    | nil =>
      exact ⟨[], [], by simp [List.mem_singleton.mp h]⟩
    | cons r pieces =>
      rw [List.intercalate_cons_cons]
      rcases List.mem_cons.mp h with rfl | h
      · exact ⟨[], sep ++ sep.intercalate (r :: pieces), by simp⟩
      · exact (ih h).trans (List.suffix_append _ _).isInfix

/-- What stands in joined pieces stands in the separator or in a piece. -/
theorem mem_intercalate {sep : List Char} {pieces : List (List Char)} {c : Char}
    (h : c ∈ sep.intercalate pieces) : c ∈ sep ∨ ∃ p ∈ pieces, c ∈ p := by
  induction pieces with
  | nil => exact absurd h List.not_mem_nil
  | cons p pieces ih =>
    cases pieces with
    | nil =>
      rw [List.intercalate_singleton] at h
      exact .inr ⟨p, List.mem_cons_self, h⟩
    | cons q pieces =>
      rw [List.intercalate_cons_cons, List.append_assoc, List.mem_append, List.mem_append] at h
      rcases h with h | h | h
      · exact .inr ⟨p, List.mem_cons_self, h⟩
      · exact .inl h
      · rcases ih h with hsep | ⟨r, hr, hcr⟩
        · exact .inl hsep
        · exact .inr ⟨r, List.mem_cons_of_mem p hr, hcr⟩

/-! ## Lines -/

/-- The lines of a source text: what stands between its line feeds. -/
def sourceLines (s : String) : List String :=
  (split (· = '\n') s.toList).map String.ofList

/-- Between the line feeds of joined lines stand the lines, and nothing stands after the last. -/
theorem split_joined {lines : List String} (hne : lines ≠ [])
    (h : ∀ l ∈ lines, '\n' ∉ l.toList) :
    split (· = '\n') ("\n".intercalate lines ++ "\n").toList =
      (lines ++ [""]).map String.toList := by
  have hjoin : ("\n".intercalate lines ++ "\n").toList =
      ['\n'].intercalate ((lines ++ [""]).map String.toList) := by
    rw [show ['\n'] = "\n".toList from rfl, ← String.toList_intercalate,
      String.intercalate_append_of_ne_nil hne (List.cons_ne_nil _ _)]
    simp
  have hfeed : ∀ p ∈ (lines ++ [""]).map String.toList, '\n' ∉ p := by
    intro p hp
    obtain ⟨l, hl, rfl⟩ := List.mem_map.mp hp
    rcases List.mem_append.mp hl with hl | hl
    · exact h l hl
    · simp [List.mem_singleton.mp hl]
  rw [hjoin, split_intercalate (by simp) hfeed]

/-- Lines that are each ended with a line feed come back, with an empty piece after the last line
feed. -/
theorem sourceLines_intercalate {lines : List String} (hne : lines ≠ [])
    (h : ∀ l ∈ lines, '\n' ∉ l.toList) :
    sourceLines ("\n".intercalate lines ++ "\n") = lines ++ [""] := by
  rw [sourceLines, split_joined hne h]
  simp

/-- No line of the text begins with the character. -/
def NoLineStarts (c : Char) (cs : List Char) : Prop :=
  List.IsChain (fun a b => a = '\n' → b ≠ c) ('\n' :: cs)

theorem NoLineStarts.append {c : Char} {as bs : List Char} (ha : NoLineStarts c as)
    (hb : NoLineStarts c bs) : NoLineStarts c (as ++ bs) := by
  have hb := List.isChain_cons.mp hb
  refine List.IsChain.append ha hb.2 ?_
  rintro x - y hy hx
  exact hb.1 y hy rfl

/-- A text within one line starts none but that. -/
theorem noLineStarts_of_notMem {c : Char} {cs : List Char} (hfeed : '\n' ∉ cs)
    (hhead : cs.head? ≠ some c) : NoLineStarts c cs := by
  refine List.isChain_cons.mpr ⟨?_, ?_⟩
  · rintro y hy - rfl
    exact hhead hy
  · refine List.isChain_iff_forall_rel_of_append_cons_cons.mpr ?_
    rintro a b as bs rfl rfl
    exact absurd (by simp) hfeed

theorem NoLineStarts.head?_ne {c : Char} {s : String} (h : NoLineStarts c s.toList) {l : String}
    (hl : l ∈ sourceLines s) : l.toList.head? ≠ some c := by
  obtain ⟨p, hp, rfl⟩ := List.mem_map.mp hl
  rw [String.toList_ofList]
  intro hhead
  obtain ⟨rest, rfl⟩ : ∃ rest, p = c :: rest := by
    cases p with
    | nil => simp at hhead
    | cons d rest => exact ⟨rest, by rw [Option.some.inj hhead]⟩
  cases heq : split (· = '\n') s.toList with
  | nil => exact absurd heq (split_ne_nil _)
  | cons q qs =>
    rw [heq] at hp
    rcases List.mem_cons.mp hp with rfl | hp
    · obtain ⟨b, hb⟩ := isPrefix_of_split_eq_cons heq
      rw [NoLineStarts, ← hb] at h
      exact (List.isChain_cons_cons.mp h).1 rfl rfl
    · obtain ⟨a, d, b, hd, hb⟩ := exists_append_of_mem_tail_split
        (show c :: rest ∈ (split (· = '\n') s.toList).tail by rw [heq]; exact hp)
      rw [NoLineStarts, hb, List.cons_append] at h
      exact (List.isChain_cons_append_cons_cons.mp h).2.1 (of_decide_eq_true hd) rfl

/-! ## Searching -/

theorem occursIn_iff_isInfix (needle cs : List Char) :
    occursIn needle cs = true ↔ needle <:+: cs := by
  induction cs with
  | nil => simp [occursIn]
  | cons c cs ih =>
    rw [occursIn, Bool.or_eq_true, List.isPrefixOf_iff_prefix, ih, List.infix_cons_iff]

theorem contains_iff_isInfix (s needle : String) :
    contains s needle = true ↔ needle.toList <:+: s.toList :=
  occursIn_iff_isInfix _ _

end FormScaffold.Text
