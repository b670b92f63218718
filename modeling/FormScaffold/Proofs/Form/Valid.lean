import FormScaffold.Form.Valid

/-!
# Valid forms

`Form.Valid` lists what a form without violations satisfies.  The checks report the first
requirement that fails, so a form has no violation exactly when it is valid.
-/

namespace FormScaffold

/-! ## Single requirements -/

theorem require_eq_none_iff (condition : Bool) (violation : Violation) :
    require condition violation = none ↔ condition = true := by
  cases condition <;> simp [require]

/-- Every field is well named, and no name is used twice or seen before. -/
theorem fieldViolation?_eq_none_iff (index : Nat) (seen : List String) (fields : List Field) :
    fieldViolation? index seen fields = none ↔
      (∀ f ∈ fields, isIdentifier f.name = true) ∧ (fields.map (·.name)).Nodup ∧
        ∀ f ∈ fields, f.name ∉ seen := by
  induction fields generalizing index seen with
  | nil => simp [fieldViolation?]
  | cons f fs ih =>
    rw [fieldViolation?]
    by_cases hid : isIdentifier f.name = true
    · by_cases hseen : f.name ∈ seen
      · simp [hid, hseen]
      · rw [if_neg (by simp [hid]), if_neg hseen, ih]
        simp only [List.map_cons, List.nodup_cons, List.mem_map, List.mem_cons, not_or]
        grind
    · simp [hid]

theorem buttonViolation?_eq_none_iff (index : Nat) (buttons : List Button) :
    buttonViolation? index buttons = none ↔ ∀ b ∈ buttons, ¬Text.AllBlank b.text := by
  induction buttons generalizing index with
  | nil => simp [buttonViolation?]
  | cons b bs ih =>
    rw [buttonViolation?]
    by_cases hblank : Text.AllBlank b.text
    · simp [hblank]
    · rw [if_neg hblank, ih]
      simp [hblank]

theorem Link.violation?_eq_none_iff (link : Link) :
    link.violation? = none ↔ ¬Text.AllBlank link.text ∧ ¬Text.AllBlank link.target := by
  simp [violation?, Option.or_eq_none_iff, require_eq_none_iff]

theorem Theme.violation?_eq_none_iff (theme : Theme) :
    theme.violation? = none ↔
      isHexColor theme.primary = true ∧ isHexColor theme.secondary = true := by
  simp [violation?, Option.or_eq_none_iff, require_eq_none_iff]

theorem storageNameViolation?_eq_none_iff (key name : String) :
    storageNameViolation? key name = none ↔ name ≠ "" ∧ isStorageName name = true := by
  simp [storageNameViolation?, Option.or_eq_none_iff, require_eq_none_iff]

/-- The two names of a storage can be used. -/
def Storage.Valid (storage : Storage) : Prop :=
  ∀ name ∈ [storage.database, storage.collection], name ≠ "" ∧ isStorageName name = true

theorem Storage.violation?_eq_none_iff (storage : Storage) :
    storage.violation? = none ↔ storage.Valid := by
  simp [violation?, Valid, Option.or_eq_none_iff, storageNameViolation?_eq_none_iff]

/-! ## Whole forms -/

/-- What a form must satisfy. -/
structure Form.Valid (form : Form) : Prop where
  name : isIdentifier form.name = true
  fieldNames : ∀ f ∈ form.fields, isIdentifier f.name = true
  distinct : (form.fields.map (·.name)).Nodup
  buttons : form.buttons ≠ []
  buttonTexts : ∀ b ∈ form.buttons, ¬Text.AllBlank b.text
  submitIndex : 1 ≤ form.submitIndex ∧ form.submitIndex ≤ form.buttons.length
  width : isClassList form.width = true
  link : ∀ l ∈ form.link, ¬Text.AllBlank l.text ∧ ¬Text.AllBlank l.target
  theme : ∀ t ∈ form.theme, isHexColor t.primary = true ∧ isHexColor t.secondary = true
  storage : ∀ s ∈ form.storage, s.Valid
  serverAction : form.serverAction = true → form.routing = .app
  route : form.storage.isSome = true → form.serverAction = false → form.apiRoute = true

theorem Form.violation?_eq_none_iff (form : Form) : form.violation? = none ↔ form.Valid := by
  simp only [violation?, violations, List.findSome?_eq_none_iff, List.forall_mem_cons,
    List.not_mem_nil, false_imp_iff, implies_true, and_true, id_eq, require_eq_none_iff,
    fieldViolation?_eq_none_iff, buttonViolation?_eq_none_iff]
  constructor
  · rintro ⟨hname, ⟨hfields, hdistinct, -⟩, hbuttons, htexts, hsubmit, hwidth, hlink, htheme,
      hstorage, haction, hroute⟩
    refine
      { name := hname, fieldNames := hfields, distinct := hdistinct, buttonTexts := htexts,
        width := hwidth, buttons := ?_, submitIndex := ?_, link := ?_, theme := ?_, storage := ?_,
        serverAction := ?_, route := ?_ }
    · simpa using hbuttons
    · simpa using hsubmit
    · intro l hl
      rw [Option.mem_def.mp hl] at hlink
      exact (Link.violation?_eq_none_iff l).mp hlink
    · intro t ht
      rw [Option.mem_def.mp ht] at htheme
      exact (Theme.violation?_eq_none_iff t).mp htheme
    · intro s hs
      rw [Option.mem_def.mp hs] at hstorage
      exact (Storage.violation?_eq_none_iff s).mp hstorage
    · intro h
      simpa [h] using haction
    · intro hs h
      cases hstored : form.storage with
      | none => simp [hstored] at hs
      | some s => simpa [hstored, h] using hroute
  · intro h
    refine ⟨h.name, ⟨h.fieldNames, h.distinct, by simp⟩, by simpa using h.buttons, h.buttonTexts,
      by simpa using h.submitIndex, h.width, ?_, ?_, ?_, ?_, ?_⟩
    · cases hl : form.link with
      | none => rfl
      | some l => exact (Link.violation?_eq_none_iff l).mpr (h.link l hl)
    · cases ht : form.theme with
      | none => rfl
      | some t => exact (Theme.violation?_eq_none_iff t).mpr (h.theme t ht)
    · cases hs : form.storage with
      | none => rfl
      | some s => exact (Storage.violation?_eq_none_iff s).mpr (h.storage s hs)
    · cases ha : form.serverAction with
      | false => rfl
      | true => simpa using h.serverAction ha
    · have hroute := h.route
      cases hs : form.storage with
      | none => rfl
      | some s => cases ha : form.serverAction <;> simp_all

/-! ## Characters of names -/

/-- The characters of an identifier can each stand behind its first. -/
theorem continuesIdentifier_of_mem {s : String} (h : isIdentifier s = true) :
    ∀ c ∈ s.toList, continuesIdentifier c = true := by
  intro c hc
  rw [isIdentifier] at h
  split at h
  · exact absurd h Bool.false_ne_true
  · next d ds heq =>
    rw [Bool.and_eq_true] at h
    rw [heq] at hc
    rcases List.mem_cons.mp hc with rfl | hc
    · have hstart := h.1
      simp only [startsIdentifier, continuesIdentifier, Char.isAlphanum, Bool.or_eq_true] at hstart ⊢
      grind
    · exact List.all_eq_true.mp h.2 c hc

theorem toNat_of_continuesIdentifier {c : Char} (h : continuesIdentifier c = true) :
    0x24 ≤ c.toNat ∧ c.toNat ≤ 0x7A := by
  have hword : c.isAlphanum =
      ((decide (c.val ≥ 'A'.val ∧ c.val ≤ 'Z'.val) || c.val ≥ 'a'.val && c.val ≤ 'z'.val) ||
        c.val ≥ '0'.val && c.val ≤ '9'.val) := rfl
  have hval : c.val.toNat = c.toNat := rfl
  simp only [continuesIdentifier, hword, Bool.or_eq_true, Bool.and_eq_true, decide_eq_true_eq,
    ge_iff_le, UInt32.le_iff_toNat_le] at h
  rcases h with ((((h | h) | h) | rfl) | rfl)
  · simp at h; omega
  · simp at h; omega
  · simp at h; omega
  · decide
  · decide

theorem isBlank_of_continuesIdentifier {c : Char} (h : continuesIdentifier c = true) :
    Text.isBlank c = false := by
  obtain ⟨hlow, hhigh⟩ := toNat_of_continuesIdentifier h
  rw [← Bool.not_eq_true, Text.isBlank]
  simp only [Bool.or_eq_true, Bool.and_eq_true, decide_eq_true_eq, List.contains_eq_mem,
    List.mem_cons, List.not_mem_nil, or_false]
  omega

theorem ne_empty_of_isIdentifier {s : String} (h : isIdentifier s = true) : s ≠ "" := by
  rintro rfl
  exact absurd h (by decide)

/-- What continues an identifier can be added to one. -/
theorem isIdentifier_append {s t : String} (h : isIdentifier s = true)
    (ht : t.toList.all continuesIdentifier = true) : isIdentifier (s ++ t) = true := by
  rw [isIdentifier] at h ⊢
  rw [String.toList_append]
  cases hs : s.toList with
  | nil => simp [hs] at h
  | cons c cs =>
    rw [hs] at h
    simp only [List.cons_append, List.all_append, Bool.and_eq_true] at h ⊢
    exact ⟨h.1, h.2, ht⟩

end FormScaffold
