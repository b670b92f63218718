import FormScaffold.Proofs.Constraint
import FormScaffold.Proofs.Text.Token

/-!
# The grammar of rule texts

A rule text is made of tokens, and a token of a word and a value.  What a token becomes by the
grammar is stated here as a relation, and every rule text is read by it: each token becomes one
constraint or one warning, in order (`Field.constraints_by_grammar`).
-/

namespace FormScaffold

open Text (IsCore IsNumeral IsSplit)

/-! ## Tokens -/

/-- The word of a token and its value: the cores of what stands before and behind the first colon.
A token without a colon is a word. -/
inductive HasParts (token : List Char) : String → Option String → Prop where
  | colon {before behind : List Char} {word value : String} :
    token = before ++ ':' :: behind → ':' ∉ before → IsCore before word.toList →
      IsCore behind value.toList → HasParts token word (some value)
  | word : ':' ∉ token → HasParts token (String.ofList token) none

theorem hasParts_iff {token : List Char} {word : String} {value : Option String} :
    HasParts token word value ↔ tokenParts token = (word, value.map String.toList) := by
  rw [tokenParts]
  constructor
  · rintro (⟨rfl, hcolon, hword, hvalue⟩ | hcolon)
    · have hbefore : ∀ c ∈ _, decide (c = ':') = false := fun c hc =>
        decide_eq_false fun heq => hcolon (heq ▸ hc)
      rw [Text.cutFirst_append_cons hbefore rfl]
      dsimp only
      rw [Text.trimChars_eq_iff.mpr hword, Text.trimChars_eq_iff.mpr hvalue, String.ofList_toList]
      rfl
    · have hnone : Text.cutFirst (· = ':') token = none :=
        Text.cutFirst_eq_none_iff.mpr fun c hc => decide_eq_false fun heq => hcolon (heq ▸ hc)
      rw [hnone]
      rfl
  · cases hcut : Text.cutFirst (· = ':') token with
    | none =>
      intro h
      obtain ⟨rfl, hvalue⟩ := Prod.mk.inj h
      obtain rfl := Option.map_eq_none_iff.mp hvalue.symm
      refine .word fun hcolon => ?_
      exact absurd (Text.cutFirst_eq_none_iff.mp hcut ':' hcolon) (by decide)
    | some parts =>
      obtain ⟨before, behind⟩ := parts
      intro h
      obtain ⟨rfl, hvalue⟩ := Prod.mk.inj h
      obtain ⟨v, rfl, hv⟩ := Option.map_eq_some_iff.mp hvalue.symm
      obtain ⟨c, hc, rfl, hbefore⟩ := Text.cutFirst_eq_some_iff.mp hcut
      refine .colon (congrArg (before ++ · :: behind) (of_decide_eq_true hc)) ?_ ?_ ?_
      · exact fun hcolon => absurd (hbefore ':' hcolon) (by decide)
      · exact Text.trimChars_eq_iff.mp (String.toList_ofList).symm
      · exact Text.trimChars_eq_iff.mp hv.symm

/-- Every token has parts. -/
theorem exists_hasParts (token : List Char) : ∃ word value, HasParts token word value := by
  refine ⟨(tokenParts token).1, (tokenParts token).2.map String.ofList, hasParts_iff.mpr ?_⟩
  simp [Function.comp_def]

/-- What a token becomes by the grammar of rules. -/
inductive Becomes (own : Option String) (token : List Char) :
    Except RuleWarning Constraint → Prop where
  | plain {kind : ConstraintKind} {value : Option String} :
    kind ∈ [.required, .email] → HasParts token kind.rule value →
      Becomes own token (.ok (.ofKind kind none own))
  | length {kind : ConstraintKind} {value : String} {n : Nat} :
    kind ∈ [.min, .max] → HasParts token kind.rule (some value) → IsNumeral value.toList n →
      n ≤ Text.word32 → Becomes own token (.ok (.ofKind kind (some n) own))
  | noLength {kind : ConstraintKind} {value : Option String} :
    kind ∈ [.min, .max] → HasParts token kind.rule value →
      (∀ v ∈ value, ∀ n, IsNumeral v.toList n → Text.word32 < n) →
        Becomes own token (.error (.noLength kind.rule (value.getD "")))
  | unknown {word : String} {value : Option String} :
    HasParts token word value → word ∉ ["required", "min", "max", "email"] →
      Becomes own token (.error (.unknownRule word))

theorem ConstraintKind.ofRule?_eq_some_iff {word : String} {kind : ConstraintKind} :
    ofRule? word = some kind ↔ kind ∈ named ∧ kind.rule = word := by
  constructor
  · intro h
    have hrule : decide (kind.rule = word) = true :=
      List.find?_some (p := fun k : ConstraintKind => decide (k.rule = word)) h
    exact ⟨List.mem_of_find?_eq_some h, of_decide_eq_true hrule⟩
  · rintro ⟨hnamed, rfl⟩
    cases kind with
    | integer => exact absurd hnamed (by decide)
    | _ => rfl

theorem ConstraintKind.ofRule?_eq_none_iff {word : String} :
    ofRule? word = none ↔ word ∉ ["required", "min", "max", "email"] := by
  have hwords : ["required", "min", "max", "email"] = named.map rule := rfl
  rw [hwords, List.mem_map, ofRule?, List.find?_eq_none]
  simp only [decide_eq_true_eq, not_exists, not_and]

/-- The kinds that a rule text can name, by whether they take a length. -/
theorem ConstraintKind.mem_plain_iff {kind : ConstraintKind} :
    kind ∈ [required, email] ↔ kind ∈ named ∧ kind.takesLength = false := by
  cases kind <;> decide

theorem ConstraintKind.mem_taking_iff {kind : ConstraintKind} :
    kind ∈ [min, max] ↔ kind ∈ named ∧ kind.takesLength = true := by
  cases kind <;> decide

theorem ConstraintKind.ofRule?_rule {kind : ConstraintKind} (h : kind ∈ named) :
    ofRule? kind.rule = some kind :=
  ofRule?_eq_some_iff.mpr ⟨h, rfl⟩

section Tokens

variable {own : Option String} {token : List Char} {word : String} {value : Option String}
  {kind : ConstraintKind}

theorem readToken_unknown (h : HasParts token word value)
    (hrule : ConstraintKind.ofRule? word = none) :
    readToken own token = .error (.unknownRule word) := by
  simp only [readToken, hasParts_iff.mp h, hrule]

theorem readToken_plain (h : HasParts token word value)
    (hrule : ConstraintKind.ofRule? word = some kind) (hlength : kind.takesLength = false) :
    readToken own token = .ok (.ofKind kind none own) := by
  simp only [readToken, hasParts_iff.mp h, hrule, hlength, Bool.false_eq_true, if_false]

theorem readToken_length (h : HasParts token word value)
    (hrule : ConstraintKind.ofRule? word = some kind) (hlength : kind.takesLength = true) :
    readToken own token =
      (value.bind fun v => Text.readNumeral? Text.word32 v.toList).elim
        (.error (.noLength word (value.getD ""))) fun n => .ok (.ofKind kind (some n) own) := by
  simp only [readToken, hasParts_iff.mp h, hrule, hlength, if_true]
  cases value with
  | none => rfl
  | some v =>
    simp only [Option.map_some, Option.bind_some, Option.getD_some, String.ofList_toList]
    cases Text.readNumeral? Text.word32 v.toList <;> rfl

theorem bind_readNumeral?_eq_none_iff :
    (value.bind fun v => Text.readNumeral? Text.word32 v.toList) = none ↔
      ∀ v ∈ value, ∀ n, IsNumeral v.toList n → Text.word32 < n := by
  rw [Option.bind_eq_none_iff]
  refine forall₂_congr fun v _ => ?_
  rw [Option.eq_none_iff_forall_ne_some]
  refine forall_congr' fun n => ?_
  rw [Ne, Text.readNumeral?_eq_some_iff, not_and, Nat.not_le]

/-- A token is read as the grammar says. -/
theorem becomes_iff {result : Except RuleWarning Constraint} :
    Becomes own token result ↔ readToken own token = result := by
  constructor
  · rintro (⟨hkind, hparts⟩ | ⟨hkind, hparts, hn, hle⟩ | ⟨hkind, hparts, hnone⟩ | ⟨hparts, hword⟩)
    · obtain ⟨hnamed, hlength⟩ := ConstraintKind.mem_plain_iff.mp hkind
      exact readToken_plain hparts (ConstraintKind.ofRule?_rule hnamed) hlength
    · obtain ⟨hnamed, hlength⟩ := ConstraintKind.mem_taking_iff.mp hkind
      rw [readToken_length hparts (ConstraintKind.ofRule?_rule hnamed) hlength, Option.bind_some,
        Text.readNumeral?_eq_some_iff.mpr ⟨hn, hle⟩]
      rfl
    · obtain ⟨hnamed, hlength⟩ := ConstraintKind.mem_taking_iff.mp hkind
      rw [readToken_length hparts (ConstraintKind.ofRule?_rule hnamed) hlength,
        bind_readNumeral?_eq_none_iff.mpr hnone]
      rfl
    · exact readToken_unknown hparts (ConstraintKind.ofRule?_eq_none_iff.mpr hword)
  · rintro rfl
    obtain ⟨word, value, hparts⟩ := exists_hasParts token
    cases hrule : ConstraintKind.ofRule? word with
    | none =>
      rw [readToken_unknown hparts hrule]
      exact .unknown hparts (ConstraintKind.ofRule?_eq_none_iff.mp hrule)
    | some kind =>
      obtain ⟨hnamed, rfl⟩ := ConstraintKind.ofRule?_eq_some_iff.mp hrule
      cases hlength : kind.takesLength with
      | false =>
        rw [readToken_plain hparts hrule hlength]
        exact .plain (ConstraintKind.mem_plain_iff.mpr ⟨hnamed, hlength⟩) hparts
      | true =>
        have hkind := ConstraintKind.mem_taking_iff.mpr ⟨hnamed, hlength⟩
        rw [readToken_length hparts hrule hlength]
        cases hread : value.bind fun v => Text.readNumeral? Text.word32 v.toList with
        | none => exact .noLength hkind hparts (bind_readNumeral?_eq_none_iff.mp hread)
        | some n =>
          obtain ⟨v, rfl, hv⟩ := Option.bind_eq_some_iff.mp hread
          obtain ⟨hn, hle⟩ := Text.readNumeral?_eq_some_iff.mp hv
          exact .length hkind hparts hn hle

end Tokens

/-! ## Rule texts -/

/-- The results of the tokens of a rule text: of the pieces between its commas, without the white
space around them and without the empty ones. -/
def RulesBecome (own : Option String) (rules : String)
    (results : List (Except RuleWarning Constraint)) : Prop :=
  ∃ pieces cores, IsSplit ',' rules.toList pieces ∧ List.Forall₂ IsCore pieces cores ∧
    List.Forall₂ (Becomes own) (cores.filter (· ≠ [])) results

theorem forall₂_iff_map_eq {α β : Type} {R : α → β → Prop} {f : α → β}
    (h : ∀ a b, R a b ↔ f a = b) {as : List α} {bs : List β} :
    List.Forall₂ R as bs ↔ as.map f = bs := by
  have hrelation : R = fun a b => f a = b := funext₂ fun a b => propext (h a b)
  have heq : List.Forall₂ (· = ·) (as.map f) bs ↔ as.map f = bs := by
    rw [List.forall₂_eq_eq_eq]
  rw [hrelation, ← heq, List.forall₂_map_left_iff]

theorem rulesBecome_iff {own : Option String} {rules : String}
    {results : List (Except RuleWarning Constraint)} :
    RulesBecome own rules results ↔ (ruleTokens rules).map (readToken own) = results := by
  have hcores (pieces cores : List (List Char)) :
      List.Forall₂ IsCore pieces cores ↔ pieces.map Text.trimChars = cores :=
    forall₂_iff_map_eq (f := Text.trimChars) fun _ _ => Text.trimChars_eq_iff.symm
  have hresults (tokens : List (List Char)) :
      List.Forall₂ (Becomes own) tokens results ↔ tokens.map (readToken own) = results :=
    forall₂_iff_map_eq (f := readToken own) fun _ _ => becomes_iff
  have htokens : ruleTokens rules =
      ((Text.split (· = ',') rules.toList).map Text.trimChars).filter (· ≠ []) := by
    rw [ruleTokens]
    exact List.filter_congr fun token _ => by cases token <;> rfl
  simp only [RulesBecome, ← Text.split_eq_iff, hcores, hresults, htokens]
  constructor
  · rintro ⟨pieces, cores, rfl, rfl, h⟩
    exact h
  · exact fun h => ⟨_, _, rfl, rfl, h⟩

theorem ruleTokens_append (a b : String) :
    ruleTokens (a ++ "," ++ b) = ruleTokens a ++ ruleTokens b := by
  have htoList : (a ++ "," ++ b).toList = a.toList ++ ',' :: b.toList := by simp
  rw [ruleTokens, htoList, Text.split_append_sep _ rfl, List.map_append, List.filter_append]
  rfl

namespace Field

theorem typeConstraints_of_ne (field : Field) (h : field.type ≠ .number) :
    field.typeConstraints =
      if field.type = .email then [.ofKind .email none field.message] else [] := by
  rw [typeConstraints]
  split
  · next hnumber => exact absurd hnumber h
  · next hemail => rw [if_pos hemail]
  · next hemail => rw [if_neg hemail]

/-- Rule texts that are put together with a comma give their constraints one after the other. -/
theorem constraints_append {field : Field} (hemail : field.type ≠ .email)
    (hnumber : field.type ≠ .number) (a b : String) :
    { field with rules := a ++ "," ++ b }.constraints =
      { field with rules := a }.constraints ++ { field with rules := b }.constraints := by
  have hread (rules : String) : { field with rules }.constraints =
      ((ruleTokens rules).map (readToken field.message)).filterMap Except.toOption := by
    have htype := typeConstraints_of_ne { field with rules } hnumber
    rw [constraints, htype, if_neg hemail, List.append_nil, readRules, if_neg hnumber]
  rw [hread, hread, hread, ruleTokens_append, List.map_append, List.filterMap_append]

/-- The constraints of a field are those of its rule text by the grammar, in order, and for an
email field one more at the end; a number field has one of its own.  Each has the message of the
field, or else that of its kind. -/
theorem constraints_by_grammar (field : Field) :
    (if field.type = .number then
      field.constraints = [.ofKind .integer none field.message] ∧ field.ruleWarnings = []
    else
      ∃ results, (∀ rs, RulesBecome field.message field.rules rs ↔ rs = results) ∧
        field.constraints = results.filterMap Except.toOption ++
          (if field.type = .email then [.ofKind .email none field.message] else []) ∧
        field.ruleWarnings = results.filterMap fun
          | .ok _ => none
          | .error warning => some warning) ∧
    (∀ c ∈ field.constraints, c.message = field.message.getD (c.kind.message c.length)) ∧
    (field.type ∈ [.email, .number] ∨ ∀ a b : String,
      { field with rules := a ++ "," ++ b }.constraints =
        { field with rules := a }.constraints ++ { field with rules := b }.constraints) := by
  refine ⟨?_, fun c hc => message_of_mem_constraints hc, ?_⟩
  · split
    · next hnumber => simp [constraints, ruleWarnings, readRules, typeConstraints, hnumber]
    · next hnumber =>
      refine ⟨(ruleTokens field.rules).map (readToken field.message), fun rs => ?_, ?_, ?_⟩
      · rw [rulesBecome_iff, eq_comm]
      · rw [constraints, field.typeConstraints_of_ne hnumber, readRules, if_neg hnumber]
      · exact congrArg (List.filterMap _) (if_neg hnumber)
  · by_cases h : field.type ∈ [.email, .number]
    · exact .inl h
    · simp only [List.mem_pair, not_or] at h
      exact .inr (constraints_append h.1 h.2)

end Field

end FormScaffold
