import FormScaffold.Proofs.Text.Split

/-!
# Words

The words of a text are what stands between its white space, whatever white space that is and
however much of it comes in a row.  Every text has its words, and only these (`words_eq_iff`).
-/

namespace FormScaffold.Text

/-- A text that white space does not divide. -/
def IsWord (cs : List Char) : Prop := cs ≠ [] ∧ ∀ c ∈ cs, isBlank c = false

theorem isWord_iff {cs : List Char} :
    IsWord cs ↔ (!cs.isEmpty && cs.all fun c => !isBlank c) = true := by
  simp [IsWord]

instance : DecidablePred IsWord := fun _ => decidable_of_iff _ isWord_iff.symm

/-- The words of a text in order: each ends at white space or at the end of the text. -/
inductive Worded : List Char → List String → Prop
  | nil : Worded [] []
  | blank {c : Char} {cs : List Char} {ws : List String} :
    isBlank c = true → Worded cs ws → Worded (c :: cs) ws
  | last {word : List Char} : IsWord word → Worded word [String.ofList word]
  | word {word cs : List Char} {c : Char} {ws : List String} :
    IsWord word → isBlank c = true → Worded cs ws →
      Worded (word ++ c :: cs) (String.ofList word :: ws)

/-- Words are made of characters of the text that are no white space. -/
theorem mem_of_mem_words {s word : String} (hword : word ∈ words s) {c : Char}
    (hc : c ∈ word.toList) : c ∈ s.toList ∧ isBlank c = false := by
  obtain ⟨piece, hpiece, rfl⟩ := List.mem_map.mp hword
  rw [String.toList_ofList] at hc
  exact mem_of_mem_split (List.mem_filter.mp hpiece).1 hc

/-- No word reaches across white space. -/
theorem words_append_blank (as bs : List Char) {c : Char} (hc : isBlank c = true) :
    words (String.ofList (as ++ c :: bs)) =
      words (String.ofList as) ++ words (String.ofList bs) := by
  simp only [words, String.toList_ofList, split_append_sep as hc bs, List.filter_append,
    List.map_append]

theorem IsWord.words {word : List Char} (h : IsWord word) :
    words (String.ofList word) = [String.ofList word] := by
  have hkept : [word].filter (fun piece => !piece.isEmpty) = [word] :=
    List.filter_cons_of_pos (by simpa using h.1)
  rw [Text.words, String.toList_ofList, split_of_forall h.2, hkept, List.map_singleton]

theorem Worded.words_eq {cs : List Char} {ws : List String} (h : Worded cs ws) :
    words (String.ofList cs) = ws := by
  induction h with
  | nil => rfl
  | blank hc _ ih => rw [← ih]; exact words_append_blank [] _ hc
  | last hword => exact hword.words
  | word hword hc _ ih => rw [words_append_blank _ _ hc, hword.words, ih, List.singleton_append]

/-- Every text has words. -/
theorem exists_worded (cs : List Char) : ∃ ws, Worded cs ws := by
  cases hcut : cutFirst isBlank cs with
  | none =>
    have hblank := cutFirst_eq_none_iff.mp hcut
    by_cases hne : cs = []
    · exact ⟨[], hne ▸ .nil⟩
    · exact ⟨_, .last ⟨hne, hblank⟩⟩
  | some parts =>
    obtain ⟨before, after⟩ := parts
    obtain ⟨c, hc, hcs, hbefore⟩ := cutFirst_eq_some_iff.mp hcut
    have hshorter : after.length < cs.length := by simp [hcs]; omega
    obtain ⟨ws, hws⟩ := exists_worded after
    subst hcs
    by_cases hne : before = []
    · exact ⟨ws, hne ▸ .blank hc hws⟩
    · exact ⟨_, .word ⟨hne, hbefore⟩ hc hws⟩
termination_by cs.length

/-- The words of a text are what is left of it between white space. -/
theorem words_eq_iff {s : String} {ws : List String} : words s = ws ↔ Worded s.toList ws := by
  constructor
  · rintro rfl
    obtain ⟨ws, hws⟩ := exists_worded s.toList
    have hwords := hws.words_eq
    rw [String.ofList_toList] at hwords
    exact hwords ▸ hws
  · intro h
    have hwords := h.words_eq
    rwa [String.ofList_toList] at hwords

theorem worded_words (s : String) : Worded s.toList (words s) := words_eq_iff.mp rfl

theorem Worded.isWord {cs : List Char} {ws : List String} (h : Worded cs ws) :
    ∀ w ∈ ws, IsWord w.toList := by
  induction h with
  | nil => exact fun w hw => absurd hw List.not_mem_nil
  | blank _ _ ih => exact ih
  | last hword =>
    intro w hw
    rwa [List.mem_singleton.mp hw, String.toList_ofList]
  | word hword _ _ ih =>
    refine List.forall_mem_cons.mpr ⟨?_, ih⟩
    rwa [String.toList_ofList]

/-- Words that are joined with spaces come back. -/
theorem worded_intercalate {ws : List String} (h : ∀ w ∈ ws, IsWord w.toList) :
    Worded (" ".intercalate ws).toList ws := by
  induction ws with
  | nil => exact .nil
  | cons w ws ih =>
    have hw : IsWord w.toList := h w List.mem_cons_self
    have ih := ih fun v hv => h v (List.mem_cons_of_mem w hv)
    cases ws with
    | nil =>
      rw [String.intercalate_singleton]
      simpa using Worded.last hw
    | cons v ws =>
      have hjoin : (" ".intercalate (w :: v :: ws)).toList =
          w.toList ++ ' ' :: (" ".intercalate (v :: ws)).toList := by
        rw [String.intercalate_cons_cons, String.toList_append, String.toList_append,
          List.append_assoc]
        rfl
      rw [hjoin]
      simpa using Worded.word hw rfl ih

theorem words_intercalate {ws : List String} (h : ∀ w ∈ ws, IsWord w.toList) :
    words (" ".intercalate ws) = ws :=
  words_eq_iff.mpr (worded_intercalate h)

end FormScaffold.Text
