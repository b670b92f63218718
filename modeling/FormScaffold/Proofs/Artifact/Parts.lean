import FormScaffold.Artifact.Component
import FormScaffold.Proofs.Arrangement
import FormScaffold.Proofs.Code.Braces
import FormScaffold.Proofs.Naming.Path

/-!
# Braces of the parts of an artifact

Imports, markup, layouts and submit handlers close the braces and the literals that they open,
whatever texts are put into them.  Free texts are quoted wherever they stand; names, numbers and
class names cannot hold a brace or a quote in the first place.
-/

namespace FormScaffold

open BraceReader (Plain Quotable Reads Turns)
open BraceReader (turns_attributeValue turns_braced turns_childText turns_literal)
open Quoted (attributeValue braced childText literal)

/-! ## Texts that need no quoting -/

theorem isPlain_of_continuesIdentifier {c : Char} (h : continuesIdentifier c = true) :
    BraceReader.isPlain c = true := by
  rw [BraceReader.isPlain, Bool.not_eq_true', List.contains_eq_mem, decide_eq_false_iff_not]
  intro hmem
  simp only [List.mem_cons, List.not_mem_nil, or_false] at hmem
  rcases hmem with rfl | rfl | rfl | rfl <;> exact absurd h (by decide)

theorem plain_of_isIdentifier {s : String} (h : isIdentifier s = true) : Plain s :=
  List.all_eq_true.mpr fun c hc => isPlain_of_continuesIdentifier (continuesIdentifier_of_mem h c hc)

theorem plain_decimal (n : Nat) : Plain (Text.decimal n) := by
  refine List.all_eq_true.mpr fun c hc => ?_
  rw [Text.decimal, String.toList_ofList] at hc
  have hdigit : c.isDigit = true := Nat.isDigit_of_mem_toDigits (by decide) (by decide) hc
  rw [BraceReader.isPlain, Bool.not_eq_true', List.contains_eq_mem, decide_eq_false_iff_not]
  intro hmem
  simp only [List.mem_cons, List.not_mem_nil, or_false] at hmem
  rcases hmem with rfl | rfl | rfl | rfl <;> exact absurd hdigit (by decide)

theorem InputType.quotable_name (type : InputType) : Quotable type.name := by
  cases type <;> decide

theorem ButtonVariant.quotable_name (variant : ButtonVariant) : Quotable variant.name := by
  cases variant <;> decide

theorem quotable_of_isIdentifier {s : String} (h : isIdentifier s = true) : Quotable s := by
  intro c hc
  have hword := continuesIdentifier_of_mem h c hc
  rw [Quoted.endsAttribute, List.contains_eq_mem, decide_eq_false_iff_not]
  intro hmem
  simp only [List.mem_cons, List.not_mem_nil, or_false] at hmem
  rcases hmem with rfl | rfl | rfl <;> exact absurd hword (by decide)

/-! ## Imports -/

theorem plain_nameList {names : List String} (h : ∀ s ∈ names, Plain s) :
    Plain (" " ++ ", ".intercalate names ++ " ") :=
  ((show Plain " " by decide).append (Plain.intercalate (by decide) h)).append (by decide)

theorem Import.turns_named {names : List String} {source : String} (h : ∀ s ∈ names, Plain s)
    (hs : Plain source) : (Import.named names source).code.Turns 0 0 := by
  refine .line (.between (.between (by decide) ?_ (by decide)) (hs.turns 0) (by decide))
  exact turns_braced ((plain_nameList h).turns 1)

theorem Import.turns_types {names : List String} {source : String} (h : ∀ s ∈ names, Plain s)
    (hs : Plain source) : (Import.types names source).code.Turns 0 0 := by
  refine .line (.between (.between (by decide) ?_ (by decide)) (hs.turns 0) (by decide))
  exact turns_braced ((plain_nameList h).turns 1)

theorem Import.turns_default {name source : String} (h : Plain name) (hs : Plain source) :
    (Import.default name source).code.Turns 0 0 :=
  .line (.between (.between (by decide) (h.turns 0) (by decide)) (hs.turns 0) (by decide))

/-! ## Fields, buttons and links -/

theorem Field.turns_control (field : Field) : Turns field.control 0 0 := by
  rw [control]
  refine .append (.between (.between ?_ (by decide) ?_) (by decide) ?_) (by decide)
  · split
    · decide
    · exact (InputType.quotable_name _).turns_between (by decide) (by decide)
  · exact turns_attributeValue _ 0
  · exact turns_braced (by decide)

theorem Field.turns_markup {field : Field} (h : isIdentifier field.name = true) :
    field.markup.Turns 0 0 := by
  have hcontrol : Turns ("control=" ++ braced "form.control") 0 0 :=
    .append (by decide) (turns_braced (by decide))
  have hname : Turns ("name=\"" ++ field.name ++ "\"") 0 0 :=
    (quotable_of_isIdentifier h).turns_between (by decide) (by decide)
  have hlabel : Turns ("<FormLabel>" ++ childText field.label ++ "</FormLabel>") 1 1 :=
    .between (by decide) (turns_childText _ 1) (by decide)
  refine .cons (.line (by decide)) (.cons (.indent ?_) (.cons (.line (by decide)) (.nil 0)))
  refine .cons (.line hcontrol) (.cons (.line hname) ?_)
  refine .seq_cons (.line (show Turns _ 0 1 by decide)) (.cons (.indent ?_) ?_)
  · refine .element (by decide) (.cons (.line hlabel) (.cons ?_ ?_)) (by decide)
    · exact .element (by decide) (.line (field.turns_control.within 1)) (by decide)
    · exact .cons (.line (by decide)) (.nil 1)
  · exact .seq_cons (.line (show Turns _ 1 0 by decide)) (.nil 0)

theorem Button.turns_markup (button : Button) (submits loadingState : Bool) :
    (button.markup submits loadingState).Turns 0 0 := by
  have htype : Quotable (if submits then "submit" else "button") := by cases submits <;> decide
  have hopening : Turns ("<Button type=\"" ++ (if submits then "submit" else "button") ++
      "\" variant=\"" ++ button.variant.name ++ "\"") 0 0 := by
    refine (button.variant.quotable_name).turns_between ?_ (by decide)
    exact ((show Reads _ (.code 0) (.literal 0) by decide).append (htype.reads 0)).append (by decide)
  rw [Button.markup]
  split
  · refine .element ?_ (.line (turns_braced ?_)) (by decide)
    · exact .append (.between hopening (by decide) (turns_braced (by decide))) (by decide)
    · exact .append (.between (by decide) (turns_literal _ 1) (by decide)) (turns_literal _ 1)
  · exact .element (.append hopening (by decide)) (.line (turns_childText _ 0)) (by decide)

theorem Link.turns_markup (link : Link) : link.markup.Turns 0 0 := by
  refine .line (.between (.between (by decide) ?_ (by decide)) ?_ (by decide))
  · exact turns_attributeValue _ 0
  · exact turns_childText _ 0

/-! ## Layouts -/

theorem Parts.turns_arrange {parts : Parts} (hfields : ∀ f ∈ parts.fields, f.Turns 0 0)
    (hbuttons : ∀ b ∈ parts.buttons, b.Turns 0 0) (hlink : ∀ l ∈ parts.link, l.Turns 0 0)
    (layout : Layout) : (parts.arrange layout).Turns 0 0 := by
  have hactions : ∀ a ∈ parts.actions, a.Turns 0 0 := by
    intro a ha
    rcases List.mem_append.mp ha with ha | ha
    · exact hbuttons a ha
    · rw [List.mem_singleton.mp ha]
      cases h : parts.link with
      | none => exact .empty 0
      | some l => exact hlink l h
  have hheader : parts.cardHeader.Turns 0 0 := by
    refine .element (by decide) (.cons (.line ?_) (.cons (.line ?_) (.nil 0))) (by decide)
    · exact .between (by decide) (turns_childText _ 0) (by decide)
    · exact .between (by decide) ((by decide : Plain cardDescription).turns 0) (by decide)
  cases layout with
  | stacked =>
    refine .element (by decide) (.seq fun part hpart => ?_) (by decide)
    rcases List.mem_append.mp hpart with hpart | hpart
    · exact hfields part hpart
    · rw [List.mem_singleton.mp hpart]
      exact .element (by decide) (.seq hactions) (by decide)
  | card =>
    refine .element (by decide) (.cons hheader (.cons ?_ (.cons ?_ (.nil 0)))) (by decide)
    · exact .element (by decide) (.seq hfields) (by decide)
    · exact .element (by decide) (.seq hactions) (by decide)
  | inline =>
    refine .element (by decide) (.seq fun part hpart => ?_) (by decide)
    rcases List.mem_append.mp hpart with hpart | hpart
    · exact hfields part hpart
    · exact hactions part hpart

/-- The class list of the container is made of letters and hyphens, of spaces, and of the width
without its white space. -/
theorem mem_toList_containerClass {horizontal : Option HorizontalAlign}
    {vertical : Option VerticalAlign} {width : String} {c : Char}
    (hc : c ∈ (containerClass horizontal vertical width).toList) :
    c = ' ' ∨ (c = '-' || c.isLower) = true ∨ c ∈ width.toList ∧ Text.isBlank c = false := by
  have hfixed : fixedClasses.all (fun word => word.toList.all fun c => c = '-' || c.isLower) =
      true := by decide
  rw [containerClass, String.toList_intercalate] at hc
  rcases Text.mem_intercalate hc with hspace | ⟨piece, hpiece, hc⟩
  · exact .inl (List.mem_singleton.mp hspace)
  · obtain ⟨word, hword, rfl⟩ := List.mem_map.mp hpiece
    rcases mem_containerClasses hword with hword | hword
    · exact .inr (.inl (List.all_eq_true.mp (List.all_eq_true.mp hfixed word hword) c hc))
    · exact .inr (.inr (Text.mem_of_mem_words hword hc))

/-- The class list of the container stands between quotes as it is. -/
theorem quotable_containerClass (horizontal : Option HorizontalAlign)
    (vertical : Option VerticalAlign) {width : String} (h : isClassList width = true) :
    Quotable (containerClass horizontal vertical width) := by
  intro c hc
  rw [Quoted.endsAttribute, List.contains_eq_mem, decide_eq_false_iff_not]
  intro hmem
  simp only [List.mem_cons, List.not_mem_nil, or_false] at hmem
  rcases mem_toList_containerClass hc with rfl | hletter | ⟨hwidth, hblank⟩
  · exact absurd hmem (by decide)
  · rcases hmem with rfl | rfl | rfl <;> exact absurd hletter (by decide)
  · have hbreak : breaksClassList c = false := by
      rw [isClassList, Bool.not_eq_true', List.any_eq_false] at h
      simpa using h c hwidth
    rcases hmem with rfl | rfl | rfl
    · exact absurd hbreak (by decide)
    · exact absurd hbreak (by decide)
    · exact absurd hblank (by decide)

/-! ## Submitting -/

/-- A `try` block and what follows an error, whatever ends the second block. -/
theorem turns_tryCatch {attempt failure : Code} {rest : List Code} (ha : attempt.Turns 0 0)
    (hf : failure.Turns 0 0) {m : Nat} (hrest : Code.Turns (.seq rest) (m + 1) m) :
    Code.Turns (.seq (.block "try \x7b" attempt "\x7d catch (error) \x7b" :: .indent failure ::
      rest)) m m := by
  refine .seq_cons (.braces ?_ (ha.within (m + 1)) ?_) (.cons (hf.within (m + 1)).indent hrest)
  · exact ⟨rfl, by decide⟩
  · exact ⟨rfl, by decide⟩

namespace Submission

variable (submission : Submission) {names : Naming}

theorem turns_stateHooks : submission.stateHooks.Turns 0 0 :=
  .cons (.when fun _ => .line (by decide)) (.cons (.when fun _ => .line (by decide))
    (.cons (.line (by decide)) (.nil 0)))

theorem turns_onSuccess : submission.onSuccess.Turns 0 0 := by
  refine .cons (.line ?_) (.cons (.line (by decide)) (.nil 0))
  exact .between (by decide) (turns_literal _ 0) (by decide)

theorem turns_checkResult : submission.checkResult.Turns 0 0 := by
  refine .braces (by decide) (.line ?_) (by decide)
  exact .between (by decide) (turns_literal _ 1) (by decide)

theorem turns_attempt (h : isIdentifier names.form = true) :
    (submission.attempt names).Turns 0 0 := by
  have haction : Plain names.actionSymbol := (plain_of_isIdentifier h).append (by decide)
  rw [attempt]
  split
  · refine .cons (.line ?_) (.cons submission.turns_checkResult
      (.cons submission.turns_onSuccess (.nil 0)))
    exact .between (by decide) (haction.turns 0) (by decide)
  · refine .cons (.braces ?_ (.cons (.line (by decide)) (.cons (.line (by decide))
      (.cons (.line (by decide)) (.nil 1)))) (by decide)) (.cons (.line (by decide))
        (.cons submission.turns_checkResult (.cons submission.turns_onSuccess (.nil 0))))
    exact .between (by decide) (turns_literal _ 0) (by decide)
  · refine .cons (.line ?_) (.cons submission.turns_onSuccess (.nil 0))
    exact .between (by decide) (turns_literal _ 0) (by decide)

theorem turns_onError : submission.onError.Turns 0 0 := by
  refine .cons (.line (by decide)) (.cons (.when fun _ => .line ?_) (.nil 0))
  exact .between (by decide) (turns_literal _ 0) (by decide)

theorem turns_handler (h : isIdentifier names.form = true) :
    (submission.handler names).Turns 0 0 := by
  refine .cons (.when fun _ => .line (by decide)) (.cons (.when fun _ => .line (by decide))
    (.cons (.line (by decide)) ?_))
  refine turns_tryCatch (submission.turns_attempt h) submission.turns_onError ?_
  cases submission.loadingState with
  | true =>
    exact .seq_cons (.block (show Turns _ 1 1 by decide) (.line (show Turns _ 1 1 by decide))
      (show Turns _ 1 0 by decide)) (.nil 0)
  | false => exact .seq_cons (.line (show Turns _ 1 0 by decide)) (.nil 0)

end Submission

end FormScaffold
