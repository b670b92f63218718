import Mathlib.Data.List.DropRight
import Mathlib.Data.List.Forall2
import FormScaffold.Proofs.Text.Split
import FormScaffold.Text.Numeral

/-!
# Pieces, cores and numerals

What cutting a text, trimming it and reading a number give is said here without saying how it is
found: pieces are joined to the text again, a core is what white space surrounds, and a numeral is
made of digits.  Each of these is found exactly where there is one (`split_eq_iff`,
`trimChars_eq_iff`, `readNumeral?_eq_some_iff`).
-/

namespace FormScaffold.Text

/-! ## Pieces -/

/-- The pieces of a text between the places of a character. -/
structure IsSplit (c : Char) (cs : List Char) (pieces : List (List Char)) : Prop where
  ne_nil : pieces ≠ []
  intercalate_eq : [c].intercalate pieces = cs
  notMem : ∀ p ∈ pieces, c ∉ p

theorem split_eq_iff {c : Char} {cs : List Char} {pieces : List (List Char)} :
    split (· = c) cs = pieces ↔ IsSplit c cs pieces := by
  constructor
  · rintro rfl
    refine ⟨split_ne_nil cs, intercalate_split c cs, fun p hp hc => ?_⟩
    exact absurd rfl (of_decide_eq_false (mem_of_mem_split hp hc).2)
  · rintro ⟨hne, rfl, hnotMem⟩
    exact split_intercalate hne hnotMem

/-! ## White space at the ends -/

section Trim

variable {p : Char → Bool}

/-- A text stays as it is exactly when nothing can be dropped at either end. -/
theorem rdropWhile_dropWhile_eq_self_iff {cs : List Char} :
    (cs.dropWhile p).rdropWhile p = cs ↔
      (∀ c ∈ cs.head?, p c = false) ∧ ∀ c ∈ cs.getLast?, p c = false := by
  constructor
  · intro h
    -- neither step makes the text shorter, so neither changes it
    have hfront : cs.dropWhile p = cs := by
      refine (List.dropWhile_sublist p).eq_of_length_le ?_
      calc cs.length
        _ = ((cs.dropWhile p).rdropWhile p).length := (congrArg List.length h).symm
        _ ≤ (cs.dropWhile p).length := (List.rdropWhile_prefix p _).length_le
    have hback : cs.rdropWhile p = cs := by
      rw [hfront] at h
      exact h
    refine ⟨fun c hc => ?_, fun c hc => ?_⟩
    · cases cs with
      | nil => exact absurd hc (by simp)
      | cons d cs =>
        have hd := List.dropWhile_eq_self_iff.mp hfront (by simp)
        rw [← Option.some.inj hc]
        simpa using hd
    · have hne : cs ≠ [] := by
        rintro rfl
        exact absurd hc (by simp)
      have hlast := List.rdropWhile_eq_self_iff.mp hback hne
      rw [List.getLast?_eq_getLast_of_ne_nil hne] at hc
      rw [← Option.some.inj hc]
      simpa using hlast
  · rintro ⟨hhead, hlast⟩
    have hfront : cs.dropWhile p = cs := by
      cases cs with
      | nil => rfl
      | cons d cs => exact List.dropWhile_cons_of_neg (by simp [hhead d rfl])
    rw [hfront, List.rdropWhile_eq_self_iff]
    intro hne
    rw [hlast _ (List.getLast?_eq_getLast_of_ne_nil hne)]
    decide

end Trim

/-- What white space surrounds in a text, itself without white space at either end. -/
def IsCore (cs core : List Char) : Prop :=
  ∃ before behind, cs = before ++ core ++ behind ∧ (∀ c ∈ before, isBlank c = true) ∧
    (∀ c ∈ behind, isBlank c = true) ∧ (∀ c ∈ core.head?, isBlank c = false) ∧
      ∀ c ∈ core.getLast?, isBlank c = false

theorem rdropWhile_append {p : Char → Bool} {cs behind : List Char}
    (h : ∀ c ∈ behind, p c = true) : (cs ++ behind).rdropWhile p = cs.rdropWhile p := by
  rw [List.rdropWhile, List.rdropWhile, List.reverse_append, List.dropWhile_append_of_pos]
  exact fun c hc => h c (List.mem_reverse.mp hc)

theorem trimChars_eq_iff {cs core : List Char} : trimChars cs = core ↔ IsCore cs core := by
  have htrim (cs : List Char) : trimChars cs = (cs.dropWhile isBlank).rdropWhile isBlank := rfl
  constructor
  · rintro rfl
    rw [htrim]
    refine ⟨cs.takeWhile isBlank, (cs.dropWhile isBlank).rtakeWhile isBlank, ?_,
      fun c hc => List.mem_takeWhile_imp hc, fun c hc => List.mem_rtakeWhile_imp hc,
      fun c hc => ?_, fun c hc => ?_⟩
    · rw [List.append_assoc, List.rdropWhile_append_rtakeWhile, List.takeWhile_append_dropWhile]
    · obtain ⟨rest, hrest⟩ := List.rdropWhile_prefix isBlank (cs.dropWhile isBlank)
      have hhead : (cs.dropWhile isBlank).head? = some c := by
        rw [← hrest, List.head?_append, hc]
        rfl
      have hnot := List.head?_dropWhile_not isBlank cs
      rw [hhead] at hnot
      exact hnot
    · have hne : (cs.dropWhile isBlank).rdropWhile isBlank ≠ [] := by
        intro hnil
        rw [hnil] at hc
        exact absurd hc (by simp)
      rw [List.getLast?_eq_getLast_of_ne_nil hne] at hc
      rw [← Option.some.inj hc]
      exact eq_false_of_ne_true (List.rdropWhile_last_not isBlank _ hne)
  · rintro ⟨before, behind, rfl, hbefore, hbehind, hcore⟩
    have hself := rdropWhile_dropWhile_eq_self_iff.mpr hcore
    rw [htrim, List.append_assoc, List.dropWhile_append_of_pos hbefore, List.dropWhile_append]
    split
    · next hempty =>
      rw [List.isEmpty_iff.mp hempty] at hself
      rw [List.dropWhile_eq_nil_iff.mpr hbehind]
      exact hself
    · rw [rdropWhile_append hbehind]
      exact hself

/-! ## Numerals -/

/-- A number written with digits, of which there is at least one, with or without a plus sign. -/
def IsNumeral (cs : List Char) (n : Nat) : Prop :=
  ∃ digits, (cs = digits ∨ cs = '+' :: digits) ∧ digits ≠ [] ∧
    (∀ c ∈ digits, c.isDigit = true) ∧ Nat.ofDigitChars 10 digits 0 = n

theorem digitValue?_of_isDigit {c : Char} (h : c.isDigit = true) :
    digitValue? c = some (c.toNat - 0x30) := by
  have hbounds : '0' ≤ c ∧ c ≤ '9' := by simpa [Char.isDigit, Char.le_def] using h
  rw [digitValue?, if_pos hbounds]

/-- Other characters are no digits of ten. -/
theorem le_of_digitValue?_eq_some {c : Char} (h : c.isDigit = false) {d : Nat}
    (hd : digitValue? c = some d) : 10 ≤ d := by
  have hbounds : ¬('0' ≤ c ∧ c ≤ '9') := by simpa [Char.isDigit, Char.le_def, Char.lt_def] using h
  rw [digitValue?, if_neg hbounds] at hd
  split at hd
  · rw [← Option.some.inj hd]
    omega
  · split at hd
    · rw [← Option.some.inj hd]
      omega
    · exact absurd hd (by simp)

theorem digitsValue?_ten (m : Nat) (cs : List Char) :
    digitsValue? 10 m cs =
      if cs.all Char.isDigit then some (Nat.ofDigitChars 10 cs m) else none := by
  induction cs generalizing m with
  | nil => rfl
  | cons c cs ih =>
    rw [digitsValue?, List.all_cons]
    cases hc : c.isDigit with
    | true =>
      have hlt : c.toNat - 0x30 < 10 := by
        have hbounds : c.toNat ≤ 0x39 := (Char.isDigit_iff_toNat.mp hc).2
        omega
      simp [digitValue?_of_isDigit hc, hlt, ih, Nat.ofDigitChars_cons, Nat.mul_comm]
    | false =>
      rw [Bool.false_and, if_neg Bool.false_ne_true]
      split
      · next d hd => rw [if_neg (Nat.not_lt.mpr (le_of_digitValue?_eq_some hc hd))]
      · rfl

theorem readDigits?_ten_eq_some_iff {cs : List Char} {n : Nat} :
    readDigits? 10 cs = some n ↔
      cs ≠ [] ∧ (∀ c ∈ cs, c.isDigit = true) ∧ Nat.ofDigitChars 10 cs 0 = n := by
  rw [readDigits?, digitsValue?_ten]
  cases cs with
  | nil => simp
  | cons c cs => simp

theorem readNumeral?_eq_some_iff {bound n : Nat} {cs : List Char} :
    readNumeral? bound cs = some n ↔ IsNumeral cs n ∧ n ≤ bound := by
  have hdigits (digits : List Char) : (readDigits? 10 digits).filter (· ≤ bound) = some n ↔
      (digits ≠ [] ∧ (∀ c ∈ digits, c.isDigit = true) ∧ Nat.ofDigitChars 10 digits 0 = n) ∧
        n ≤ bound := by
    rw [Option.filter_eq_some_iff, readDigits?_ten_eq_some_iff, decide_eq_true_iff]
  by_cases hplus : ∃ rest, cs = '+' :: rest
  · obtain ⟨rest, rfl⟩ := hplus
    rw [readNumeral?, hdigits]
    refine and_congr_left fun _ => ⟨fun h => ⟨rest, .inr rfl, h⟩, ?_⟩
    rintro ⟨digits, heq | heq, h⟩
    · -- a plus sign is no digit
      have hdigit : Char.isDigit '+' = true := h.2.1 '+' (heq ▸ List.mem_cons_self)
      exact absurd hdigit (by decide)
    · rw [(List.cons.inj heq).2]
      exact h
  · have hread : readNumeral? bound cs = (readDigits? 10 cs).filter (· ≤ bound) := by
      rw [readNumeral?]
      exact fun rest heq => hplus ⟨rest, heq⟩
    rw [hread, hdigits]
    refine and_congr_left fun _ => ⟨fun h => ⟨cs, .inl rfl, h⟩, ?_⟩
    rintro ⟨digits, rfl | rfl, h⟩
    · exact h
    · exact absurd ⟨digits, rfl⟩ hplus

end FormScaffold.Text
