import FormScaffold.Form.Questions

/-!
# What dialogues ensure

A dialogue ensures a property if all results have it that come of answers which the questions accept
(`Ensures.of_yields`).  Of a dialogue in two parts this is shown part by part (`Ensures.bind`), and
each kind of question ensures what its check asks for.
-/

namespace FormScaffold

/-- The answers that come back from a question: a text that is not refused or that stands for the
empty line, the number of an option, or yes or no. -/
def Question.Accepts : (q : Question) → q.Answer → Prop
  | text q, s => q.refusal? s = none ∨ q.fallback = some s
  | choice _ options _, i => i < options.length
  | yesNo _ _, _ => True

instance : (q : Question) → (a : q.Answer) → Decidable (q.Admits a)
  | .text q, s =>
    inferInstanceAs (Decidable (q.refusal? s = none ∧ (s = "" → q.ofEmpty? = some "")))
  | .choice _ options _, i => inferInstanceAs (Decidable (i < options.length))
  | .yesNo _ _, _ => inferInstanceAs (Decidable True)

theorem Question.Admits.accepts {q : Question} {a : q.Answer} (h : q.Admits a) : q.Accepts a := by
  cases q with
  | text q => exact .inl h.1
  | choice prompt options initial => exact h
  | yesNo prompt initial => exact h

namespace Dialogue

variable {α β : Type} {P Q : α → Prop}

/-- A dialogue comes to a result by answers that its questions accept. -/
inductive Yields : Dialogue α → α → Prop where
  | done (a : α) : Yields (.done a) a
  | ask {q : Question} {next : q.Answer → Dialogue α} {a : α} (answer : q.Answer)
      (accepted : q.Accepts answer) (rest : Yields (next answer) a) : Yields (.ask q next) a
  | tell {message : Message} {next : Dialogue α} {a : α} (rest : Yields next a) :
      Yields (.tell message next) a

/-- What a dialogue leads to at a terminal comes of answers that are accepted. -/
theorem Reaches.yields {d : Dialogue α} {a : α} (h : Reaches d a) : Yields d a := by
  induction h with
  | done a => exact .done a
  | ask answer admitted _ ih => exact .ask answer admitted.accepts ih
  | tell _ ih => exact .tell ih

/-- Every result that accepted answers lead to has a property. -/
def Ensures (P : α → Prop) : Dialogue α → Prop
  | done a => P a
  | ask q next => ∀ answer, q.Accepts answer → (next answer).Ensures P
  | tell _ next => next.Ensures P

namespace Ensures

theorem of_yields {d : Dialogue α} {a : α} (h : d.Ensures P) (hyields : Yields d a) : P a := by
  induction hyields with
  | done a => exact h
  | ask answer accepted _ ih => exact ih (h answer accepted)
  | tell _ ih => exact ih h

theorem mono (hPQ : ∀ a, P a → Q a) {d : Dialogue α} (h : d.Ensures P) : d.Ensures Q := by
  induction d with
  | done a => exact hPQ a h
  | ask q next ih => exact fun answer accepted => ih answer (h answer accepted)
  | tell message next ih => exact ih h

theorem trivial (d : Dialogue α) : d.Ensures fun _ => True := by
  induction d with
  | done a => exact True.intro
  | ask q next ih => exact fun answer _ => ih answer
  | tell message next ih => exact ih

/-- The second part may rely on what the first part ensures. -/
theorem bind {d : Dialogue α} {f : α → Dialogue β} {R : β → Prop} (h : d.Ensures P)
    (hf : ∀ a, P a → (f a).Ensures R) : (d >>= f).Ensures R := by
  induction d with
  | done a => exact hf a h
  | ask q next ih => exact fun answer accepted => ih answer (h answer accepted)
  | tell message next ih => exact ih h

theorem ite {c : Prop} [Decidable c] {d e : Dialogue α} (hd : c → d.Ensures P)
    (he : ¬c → e.Ensures P) : (if c then d else e).Ensures P := by
  split
  · next h => exact hd h
  · next h => exact he h

end Ensures

/-! ## Kinds of questions -/

theorem refuseUnless_eq_none_iff {test : String → Bool} {message s : String} :
    refuseUnless test message s = none ↔ test s = true := by
  simp [refuseUnless]

/-- A trimmed text has passed its check as it is. -/
theorem ensures_trimmed (prompt hint : String) (refusal? : String → Option String) :
    (trimmed prompt hint refusal?).Ensures fun s => refusal? s = none := by
  rintro s (accepted | fallback)
  · exact accepted
  · exact absurd fallback (Option.some_ne_none s).symm

theorem ensures_filled (prompt message : String) :
    (filled prompt message).Ensures fun s => ¬Text.AllBlank s :=
  (ensures_trimmed _ _ _).mono fun _ h => of_decide_eq_true (refuseUnless_eq_none_iff.mp h)

theorem ensures_color (prompt : String) :
    (color prompt).Ensures fun s => isHexColor s = true :=
  (ensures_trimmed _ _ _).mono fun _ h => refuseUnless_eq_none_iff.mp h

/-- A text that passes the check when it is trimmed is let pass. -/
theorem reaches_trimmed (prompt hint : String) {refusal? : String → Option String}
    {answer : String} (h : refusal? (Text.trim answer) = none) (hne : answer ≠ "") :
    Reaches (trimmed prompt hint refusal?) (Text.trim answer) :=
  .ask answer ⟨h, fun hempty => absurd hempty hne⟩ (.done _)

theorem reaches_filled (prompt message : String) {answer : String}
    (h : ¬Text.AllBlank (Text.trim answer)) :
    Reaches (filled prompt message) (Text.trim answer) := by
  refine reaches_trimmed prompt "" (refuseUnless_eq_none_iff.mpr (decide_eq_true h)) ?_
  rintro rfl
  exact absurd (by decide) h

/-- A text with a fallback passes its check if the fallback does. -/
theorem ensures_withFallback (prompt : String) {fallback : String}
    {refusal? : String → Option String} (h : refusal? fallback = none) :
    (withFallback prompt fallback refusal?).Ensures fun s => refusal? s = none := by
  rintro s (accepted | same)
  · exact accepted
  · rw [← Option.some.inj same]
    exact h

/-- A count lies between one and its bound. -/
theorem ensures_count (prompt message : String) {bound : Option Nat} (h : ∀ b ∈ bound, 1 ≤ b) :
    (count prompt message bound).Ensures fun n => 1 ≤ n ∧ ∀ b ∈ bound, n ≤ b := by
  have hfallback : (positiveCount? "1").any (fun n => bound.all (n ≤ ·)) = true := by
    rw [show positiveCount? "1" = some 1 from rfl, Option.any_some, Option.all_eq_true]
    exact fun b hb => decide_eq_true (h b hb)
  refine (ensures_withFallback prompt (refuseUnless_eq_none_iff.mpr hfallback)).bind fun s hs => ?_
  rw [refuseUnless_eq_none_iff, Option.any_eq_true] at hs
  obtain ⟨n, hn, hfits⟩ := hs
  have hpositive : 0 < n := of_decide_eq_true (Option.filter_eq_some_iff.mp hn).2
  show 1 ≤ (positiveCount? s).getD 1 ∧ ∀ b ∈ bound, (positiveCount? s).getD 1 ≤ b
  rw [hn, Option.getD_some]
  rw [Option.all_eq_true] at hfits
  exact ⟨hpositive, fun b hb => of_decide_eq_true (hfits b hb)⟩

end Dialogue

/-- What is asked for only if it is wanted is as it is asked for. -/
theorem ensures_ifWanted {α : Type} {P : α → Prop} (prompt : String) {question : Dialogue α}
    (h : question.Ensures P) : (ifWanted prompt question).Ensures fun a => ∀ b ∈ a, P b := by
  refine (Dialogue.Ensures.trivial _).bind fun wanted _ => .ite (fun _ => ?_) fun _ => ?_
  · refine h.bind fun a ha b hb => ?_
    rw [← Option.some.inj hb]
    exact ha
  · exact fun b hb => absurd hb (Option.not_mem_none b)

theorem reaches_ifWanted {α : Type} (prompt : String) {question : Dialogue α} {a : α}
    (h : Dialogue.Reaches question a) : Dialogue.Reaches (ifWanted prompt question) (some a) := by
  refine Dialogue.reaches_bind_iff.mpr ⟨true, .ask true True.intro (.done true), ?_⟩
  exact Dialogue.reaches_bind_iff.mpr ⟨a, h, .done _⟩

end FormScaffold
