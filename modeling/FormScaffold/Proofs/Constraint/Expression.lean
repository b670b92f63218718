import FormScaffold.Proofs.Constraint

/-!
# Chains of constraints in schema expressions

A schema expression loses nothing of the chain that it is written from: two chains with one
expression are the same (`Constraint.schemaExpression_injective`).  A method is its word, then the
length if there is one, then the message.  The word is known by its first letters, the length ends
before the first double quote, and the message ends where its literal does, so that nothing in a
message can be taken for a further method.
-/

namespace FormScaffold

theorem Text.decimal_injective : Function.Injective Text.decimal := by
  intro m n h
  have hdigits : Nat.toDigits 10 m = Nat.toDigits 10 n := String.ofList_injective h
  calc m
    _ = Nat.ofDigitChars 10 (Nat.toDigits 10 m) 0 := Nat.ofDigitChars_ten_toDigits.symm
    _ = Nat.ofDigitChars 10 (Nat.toDigits 10 n) 0 := by rw [hdigits]
    _ = n := Nat.ofDigitChars_ten_toDigits

/-! ## Parts of a method -/

/-- What the method of a kind begins with. -/
def ConstraintKind.methodWord : ConstraintKind → String
  | required => ".nonempty("
  | min => ".min("
  | max => ".max("
  | email => ".email("
  | integer => ".int("

/-- No word of a method is the beginning of another one. -/
theorem ConstraintKind.methodWord_append_inj {kind kind' : ConstraintKind} {u v : String}
    (h : kind.methodWord ++ u = kind'.methodWord ++ v) : kind = kind' ∧ u = v := by
  rw [← String.toList_inj, String.toList_append, String.toList_append] at h
  cases kind <;> cases kind' <;> simp [methodWord] at h ⊢
  all_goals exact String.toList_inj.mp h

namespace Constraint

/-- A length as it stands in front of a message. -/
def lengthText : Option Nat → String
  | none => ""
  | some n => Text.decimal n ++ ", "

theorem lengthText_injective : Function.Injective lengthText := by
  intro m n h
  cases m with
  | none =>
    cases n with
    | none => rfl
    | some n => exact absurd h.symm (by simp [lengthText])
  | some m =>
    cases n with
    | none => exact absurd h (by simp [lengthText])
    | some n => rw [Text.decimal_injective ((String.append_left_inj _).mp h)]

theorem quote_notMem_lengthText (length : Option Nat) : '\x22' ∉ (lengthText length).toList := by
  cases length with
  | none => exact List.not_mem_nil
  | some n =>
    rw [lengthText, String.toList_append, Text.decimal, String.toList_ofList, List.mem_append,
      not_or]
    refine ⟨?_, by decide⟩
    intro hquote
    have hdigit := Nat.isDigit_of_mem_toDigits (by decide) (by decide) hquote
    exact absurd hdigit (by decide)

/-- The first double quote behind a length is the one that opens the message. -/
theorem lengthText_append_inj {m n : Option Nat} {s t u v : String}
    (h : lengthText m ++ (Quoted.literal s ++ u) = lengthText n ++ (Quoted.literal t ++ v)) :
    m = n ∧ s = t ∧ u = v := by
  have hcut (length : Option Nat) (message rest : String) :
      Text.cutFirst (· = '\x22') (lengthText length ++ (Quoted.literal message ++ rest)).toList =
        some ((lengthText length).toList,
          message.toList.flatMap Quoted.escape ++ '\x22' :: rest.toList) := by
    have hquote : ∀ c ∈ (lengthText length).toList, decide (c = '\x22') = false := by
      intro c hc
      refine decide_eq_false ?_
      rintro rfl
      exact quote_notMem_lengthText length hc
    have htoList : (Quoted.literal message ++ rest).toList =
        '\x22' :: (message.toList.flatMap Quoted.escape ++ '\x22' :: rest.toList) := by
      simp [Quoted.literal, Quoted.literalChars]
    rw [String.toList_append, htoList]
    exact Text.cutFirst_append_cons hquote rfl _
  have hparts := congrArg (fun text : String => Text.cutFirst (· = '\x22') text.toList) h
  simp only [hcut, Option.some.injEq, Prod.mk.injEq, String.toList_inj] at hparts
  obtain rfl := lengthText_injective hparts.1
  exact ⟨rfl, Quoted.literal_append_inj ((String.append_right_inj _).mp h)⟩

/-! ## Methods and chains -/

variable {c d : Constraint} {cs ds : List Constraint}

/-- A method is its word, its length, its message and a closing bracket. -/
theorem WellFormed.method_eq (h : c.WellFormed) :
    c.method =
      c.kind.methodWord ++ (lengthText c.length ++ (Quoted.literal c.message ++ ")")) := by
  obtain ⟨kind, length, message⟩ := c
  cases kind with
  | required | email | integer =>
    cases length with
    | none => simp [method, ConstraintKind.methodWord, lengthText, String.append_assoc]
    | some n => exact absurd h.symm Bool.false_ne_true
  | min | max =>
    cases length with
    | none => exact absurd h Bool.false_ne_true
    | some n => simp [method, ConstraintKind.methodWord, lengthText, String.append_assoc]

/-- A method is told apart from every other one, whatever stands behind both. -/
theorem WellFormed.eq_of_method_append (hc : c.WellFormed) (hd : d.WellFormed) {u v : String}
    (h : c.method ++ u = d.method ++ v) : c = d ∧ u = v := by
  rw [hc.method_eq, hd.method_eq] at h
  simp only [String.append_assoc] at h
  obtain ⟨hkind, hbehind⟩ := ConstraintKind.methodWord_append_inj h
  obtain ⟨hlength, hmessage, hrest⟩ := lengthText_append_inj hbehind
  obtain ⟨kind, length, message⟩ := c
  obtain ⟨kind', length', message'⟩ := d
  obtain rfl : kind = kind' := hkind
  obtain rfl : length = length' := hlength
  obtain rfl : message = message' := hmessage
  exact ⟨rfl, (String.append_right_inj _).mp hrest⟩

theorem WellFormed.method_ne_empty (h : c.WellFormed) : c.method ≠ "" := by
  rw [h.method_eq]
  intro hempty
  simp only [String.append_eq_empty_iff] at hempty
  exact absurd hempty.2.2.2 (by decide)

theorem eq_of_join_method_eq (hcs : ∀ c ∈ cs, c.WellFormed) (hds : ∀ d ∈ ds, d.WellFormed)
    (h : String.join (cs.map method) = String.join (ds.map method)) : cs = ds := by
  induction cs generalizing ds with
  | nil =>
    cases ds with
    | nil => rfl
    | cons d ds =>
      rw [List.map_cons, String.join_cons] at h
      exact absurd (String.append_eq_empty_iff.mp h.symm).1
        (hds d List.mem_cons_self).method_ne_empty
  | cons c cs ih =>
    cases ds with
    | nil =>
      rw [List.map_cons, String.join_cons] at h
      exact absurd (String.append_eq_empty_iff.mp h).1 (hcs c List.mem_cons_self).method_ne_empty
    | cons d ds =>
      rw [List.map_cons, List.map_cons, String.join_cons, String.join_cons] at h
      obtain ⟨rfl, hrest⟩ :=
        (hcs c List.mem_cons_self).eq_of_method_append (hds d List.mem_cons_self) h
      rw [ih (fun e he => hcs e (List.mem_cons_of_mem c he))
        (fun e he => hds e (List.mem_cons_of_mem c he)) hrest]

theorem eq_of_schemaExpression_eq (hcs : ∀ c ∈ cs, c.WellFormed) (hds : ∀ d ∈ ds, d.WellFormed)
    (h : schemaExpression cs = schemaExpression ds) : cs = ds := by
  apply eq_of_join_method_eq hcs hds
  -- the two schemas that an expression can start with are equally long
  have hlength (number : Bool) :
      (if number then "z.number()" else "z.string()").toList.length = 10 := by
    cases number <;> decide
  rw [schemaExpression, schemaExpression, ← String.toList_inj, String.toList_append,
    String.toList_append] at h
  exact String.toList_inj.mp (List.append_inj_right h ((hlength _).trans (hlength _).symm))

/-- The schema expression changes with the messages. -/
theorem schemaExpression_withOwn_inj (h : ∀ c ∈ cs, c.WellFormed) {own : Option String}
    {u : String}
    (heq : schemaExpression (cs.map (withOwn own)) ++ u = schemaExpression cs ++ u) :
    cs.map (withOwn own) = cs := by
  have hown : ∀ c ∈ cs.map (withOwn own), c.WellFormed := by
    intro c hc
    obtain ⟨d, hd, rfl⟩ := List.mem_map.mp hc
    exact h d hd
  exact eq_of_schemaExpression_eq hown h ((String.append_left_inj u).mp heq)

/-- Every chain of a field is made of well-formed constraints, and from the schema expression of
such a chain its kinds, their order, their lengths and their messages can be told. -/
theorem schemaExpression_injective :
    (∀ field : Field, ∀ c ∈ field.constraints, c.WellFormed) ∧
    ∀ cs ds : List Constraint, (∀ c ∈ cs, c.WellFormed) → (∀ d ∈ ds, d.WellFormed) →
      schemaExpression cs = schemaExpression ds → cs = ds := by
  constructor
  · intro field c hc
    exact Field.wellFormed_of_mem_constraints hc
  · intro cs ds hcs hds h
    exact eq_of_schemaExpression_eq hcs hds h

/-- A message that looks like further methods is told apart from these methods. -/
theorem schemaExpression_injective_methodLike :
    let field : Field :=
      { Field.named "code" .text with rules := "required, min:+3", message := some "a\").max(9, \"b" }
    let chain : List Constraint :=
      [⟨.required, none, "a\").max(9, \"b"⟩, ⟨.min, some 3, "a\").max(9, \"b"⟩]
    (∀ c ∈ field.constraints, c.WellFormed) ∧ (∀ c ∈ chain, c.WellFormed) ∧
      schemaExpression field.constraints = schemaExpression chain ∧ field.constraints = chain := by
  intro field chain
  have hfield : ∀ c ∈ field.constraints, c.WellFormed := schemaExpression_injective.1 field
  have hchain : ∀ c ∈ chain, c.WellFormed := by
    intro c hc
    rcases List.mem_pair.mp hc with rfl | rfl
    · rfl
    · rfl
  have hexpression : schemaExpression field.constraints = schemaExpression chain := by decide
  exact ⟨hfield, hchain, hexpression,
    schemaExpression_injective.2 field.constraints chain hfield hchain hexpression⟩

/-- A kind that takes a length and has none leaves no trace in a schema expression. -/
example : schemaExpression [⟨.min, none, "Too short"⟩] = schemaExpression [] := rfl

end Constraint

end FormScaffold
