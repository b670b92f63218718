import FormScaffold.Constraint
import FormScaffold.Proofs.Text.Quoted

/-!
# Messages of constraints

Only the messages of a field's constraints depend on the field's own message
(`Field.constraints_own`), and a length stands exactly where the kind needs one
(`Field.wellFormed_of_mem_constraints`).
-/

namespace FormScaffold

namespace Constraint

/-- A length stands exactly where the kind needs one. -/
def WellFormed (c : Constraint) : Prop := c.length.isSome = c.kind.takesLength

/-- The constraint as a field with an own message would have it. -/
def withOwn (own : Option String) (c : Constraint) : Constraint := .ofKind c.kind c.length own

end Constraint

/-! ## The constraints of a field -/

theorem wellFormed_of_readToken {own : Option String} {token : List Char} {c : Constraint}
    (h : readToken own token = .ok c) : c.WellFormed := by
  simp only [readToken] at h
  split at h
  · exact absurd h (by simp)
  · split at h
    · next hlength =>
      split at h
      · rw [← Except.ok.inj h]
        exact hlength.symm
      · exact absurd h (by simp)
    · next hlength =>
      rw [← Except.ok.inj h]
      exact (Bool.eq_false_iff.mpr hlength).symm

/-- A token becomes the same constraint under another own message. -/
theorem readToken_own (own own' : Option String) (token : List Char) :
    readToken own' token = (readToken own token).map (Constraint.withOwn own') := by
  simp only [readToken]
  split
  · rfl
  · split
    · split <;> rfl
    · rfl

namespace Field

theorem readRules_own (field : Field) (own : Option String) :
    { field with message := own }.readRules =
      field.readRules.map (Except.map (Constraint.withOwn own)) := by
  rw [readRules, readRules]
  split
  · rfl
  · rw [List.map_map]
    exact List.map_congr_left fun token _ => readToken_own field.message own token

theorem typeConstraints_own (field : Field) (own : Option String) :
    { field with message := own }.typeConstraints =
      field.typeConstraints.map (Constraint.withOwn own) := by
  obtain ⟨name, label, placeholder, type, rules, message⟩ := field
  cases type <;> rfl

/-- The own message changes only the messages of the constraints. -/
theorem constraints_own (field : Field) (own : Option String) :
    { field with message := own }.constraints =
      field.constraints.map (Constraint.withOwn own) := by
  have hoption : Except.toOption ∘ Except.map (Constraint.withOwn own) =
      Option.map (Constraint.withOwn own) ∘ (Except.toOption (ε := RuleWarning)) := by
    funext result
    cases result <;> rfl
  rw [constraints, constraints, readRules_own, typeConstraints_own, List.map_append,
    List.filterMap_map, List.map_filterMap, hoption]
  rfl

/-- Every constraint has the own message, or else the message of its kind. -/
theorem message_of_mem_constraints {field : Field} {c : Constraint} (h : c ∈ field.constraints) :
    c.message = field.message.getD (c.kind.message c.length) := by
  have hself : field.constraints.map (Constraint.withOwn field.message) =
      field.constraints.map id := by
    rw [List.map_id]
    exact (field.constraints_own field.message).symm
  have hc : c.withOwn field.message = c := List.map_inj_left.mp hself c h
  rw [← congrArg Constraint.message hc]
  rfl

theorem wellFormed_of_mem_constraints {field : Field} {c : Constraint}
    (h : c ∈ field.constraints) : c.WellFormed := by
  rcases List.mem_append.mp h with h | h
  · obtain ⟨result, hresult, hc⟩ := List.mem_filterMap.mp h
    rw [readRules] at hresult
    split at hresult
    · exact absurd hresult List.not_mem_nil
    · obtain ⟨token, -, rfl⟩ := List.mem_map.mp hresult
      cases htoken : readToken field.message token with
      | error warning => simp [htoken, Except.toOption] at hc
      | ok d =>
        rw [htoken] at hc
        obtain rfl := Option.some.inj hc
        exact wellFormed_of_readToken htoken
  · rw [typeConstraints] at h
    split at h
    · rw [List.mem_singleton.mp h]
      rfl
    · rw [List.mem_singleton.mp h]
      rfl
    · exact absurd h List.not_mem_nil

end Field

/-- No message that a kind has of its own is blank. -/
theorem ConstraintKind.not_allBlank_message (kind : ConstraintKind) (length : Option Nat) :
    ¬Text.AllBlank (kind.message length) := by
  have hletter : 'i' ∈ (kind.message length).toList := by
    cases kind <;> cases length <;> simp [message]
  intro hblank
  exact absurd (List.all_eq_true.mp hblank 'i' hletter) (by decide)

end FormScaffold
