import FormScaffold.Json.Reading
import FormScaffold.Proofs.Json.Spelled
import FormScaffold.Proofs.Json.Written
import FormScaffold.Proofs.Text.Numeral

/-!
# Reading what was written

The text of a written value spells the same value, except that some control characters come back as
the code units as which they were written (`Value.Written.spelled`).  So it is read back as that
value (`Document.ofText_toText`).
-/

namespace FormScaffold.Json

/-! ## Values as they come back -/

/-- A unit as it comes back: control characters without an escape of their own are written as
code units. -/
def StringUnit.reread : StringUnit → StringUnit
  | .char c =>
    if c.toNat < 0x20 ∧ c ∉ ['\x08', '\x0c', '\n', '\r', '\t'] then .code c.toNat else .char c
  | .code n => .code n

def RawString.reread (s : RawString) : RawString := ⟨s.units.map StringUnit.reread, s.fault⟩

mutual

def Value.reread : Value → Value
  | .string s => .string s.reread
  | .list items ending => .list (rereadItems items) ending
  | .object members ending => .object (rereadMembers members) ending
  | v => v

def rereadItems : List Value → List Value
  | [] => []
  | v :: vs => v.reread :: rereadItems vs

def rereadMembers : List (RawString × Value) → List (RawString × Value)
  | [] => []
  | (key, v) :: members => (key.reread, v.reread) :: rereadMembers members

end

/-! ## Strings -/

theorem codeUnit?_hexDigits : ∀ n < 0x20, codeUnit? (Nat.digitChar (n / 4096 % 16))
    (Nat.digitChar (n / 256 % 16)) (Nat.digitChar (n / 16 % 16)) (Nat.digitChar (n % 16)) =
      some n := by
  decide

/-- A written character spells one unit. -/
theorem spelled_escapeChar (c : Char) : (StringUnit.char c).reread.Spelled (escapeChar c) := by
  unfold escapeChar
  split
  case h_8 hquote hslash hback hform hfeed hreturn htab =>
    split
    · next hlt =>
      have hletter : c ∉ ['\x08', '\x0c', '\n', '\r', '\t'] := by
        simp only [List.mem_cons, List.not_mem_nil, or_false, not_or]
        exact ⟨hback, hform, hfeed, hreturn, htab⟩
      rw [StringUnit.reread, if_pos ⟨hlt, hletter⟩]
      exact .code (codeUnit?_hexDigits c.toNat hlt)
    · next hle =>
      rw [StringUnit.reread, if_neg fun h => hle h.1]
      exact .plain (Nat.le_of_not_lt hle) hquote hslash
  all_goals exact .escape rfl

theorem unitsSpelled_render (cs : List Char) :
    UnitsSpelled ((cs.map StringUnit.char).map StringUnit.reread)
      ((cs.map StringUnit.char).flatMap StringUnit.render) := by
  induction cs with
  | nil => exact .nil
  | cons c cs ih => exact .cons (spelled_escapeChar c) ih

theorem spelled_ofString (s : String) :
    (RawString.ofString s).reread.Spelled (RawString.ofString s).render :=
  .quoted (unitsSpelled_render s.toList)

/-! ## Numbers -/

theorem isDigits_toDigits (n : Nat) : IsDigits (Nat.toDigits 10 n) where
  ne_nil := Nat.toDigits_ne_nil
  isDigit c hc := by
    have hdigit := Text.allDigits_toDigits n c hc
    rw [Char.isDigit, Bool.and_eq_true, decide_eq_true_eq, decide_eq_true_eq] at hdigit
    rw [isDigit, Bool.and_eq_true, decide_eq_true_eq, decide_eq_true_eq]
    exact hdigit

theorem spelled_toDigits (n : Nat) :
    Number.Spelled ⟨false, Nat.toDigits 10 n, [], none⟩ (Nat.toDigits 10 n) := by
  obtain ⟨-, -, hzero, -⟩ := Text.eq_toDigits_iff.mp (rfl : Nat.toDigits 10 n = _)
  have h := @Number.Spelled.intro false _ _ _ _ _ (isDigits_toDigits n)
    (fun hhead => hzero.resolve_right (not_not_intro hhead)) .none .none
  simpa using h

/-! ## Values -/

theorem spaces_newLine (depth : Nat) : Spaces (newLine depth) := by
  intro c hc
  rcases List.mem_cons.mp hc with rfl | hc
  · rfl
  · rw [List.eq_of_mem_replicate hc]
    rfl

/-- An item on a line of its own. -/
def Value.onLine (depth : Nat) (v : Value) : SpacedValue :=
  ⟨newLine depth, v.reread, v.render depth, []⟩

/-- A member on a line of its own. -/
def Member.onLine (depth : Nat) (m : String × Value) : SpacedMember where
  before := newLine depth
  key := (RawString.ofString m.1).reread
  keySpelling := (RawString.ofString m.1).render
  between := []
  item := ⟨[' '], m.2.reread, m.2.render depth, []⟩

theorem spaces_nil : Spaces [] := fun _ hc => absurd hc List.not_mem_nil

theorem spaced_onLine (depth : Nat) (v : Value) : (v.onLine depth).Spaced :=
  ⟨spaces_newLine depth, spaces_nil⟩

theorem Member.spaced_onLine (depth : Nat) (m : String × Value) :
    (Member.onLine depth m).Spaced where
  before := spaces_newLine depth
  between := spaces_nil
  key := spelled_ofString m.1
  item := ⟨fun c hc => by rw [List.mem_singleton.mp hc]; rfl, spaces_nil⟩

theorem rereadItems_eq_map (vs : List Value) : rereadItems vs = vs.map Value.reread := by
  induction vs with
  | nil => rfl
  | cons v vs ih => rw [rereadItems, ih, List.map_cons]

theorem rereadMembers_eq_map (members : List Member) :
    rereadMembers members = members.map fun (key, v) => (key.reread, v.reread) := by
  induction members with
  | nil => rfl
  | cons m members ih => rw [rereadMembers, ih, List.map_cons]

theorem renderItems_eq_flatMap (depth : Nat) (vs : List Value) :
    renderItems depth vs = vs.flatMap fun v => [','] ++ (v.onLine depth).chars := by
  induction vs with
  | nil => rfl
  | cons v vs ih => simp [renderItems, ih, Value.onLine, SpacedValue.chars]

theorem renderMembers_eq_flatMap (depth : Nat) (members : List (String × Value)) :
    renderMembers depth (members.map fun (key, v) => (.ofString key, v)) =
      members.flatMap fun m => [','] ++ (Member.onLine depth m).chars := by
  induction members with
  | nil => rfl
  | cons m members ih =>
    simp [renderMembers, ih, Member.onLine, SpacedMember.chars, SpacedValue.chars]

theorem render_list {vs : List Value} (hne : vs ≠ []) (depth : Nat) :
    (Value.list vs .closed).render depth =
      '[' :: ([','].intercalate (vs.map fun v => (v.onLine (depth + 1)).chars) ++
        (newLine depth ++ [']'])) := by
  obtain ⟨v, vs, rfl⟩ := List.exists_cons_of_ne_nil hne
  rw [Value.render, renderItems_eq_flatMap, List.map_cons, Text.intercalate_cons, List.flatMap_map]
  simp [Value.onLine, SpacedValue.chars]

theorem render_object {members : List (String × Value)} (hne : members ≠ []) (depth : Nat) :
    (Value.object (members.map fun (key, v) => (.ofString key, v)) .closed).render depth =
      '\x7b' :: ([','].intercalate (members.map fun m => (Member.onLine (depth + 1) m).chars) ++
        (newLine depth ++ ['\x7d'])) := by
  obtain ⟨m, members, rfl⟩ := List.exists_cons_of_ne_nil hne
  rw [List.map_cons, Value.render, renderMembers_eq_flatMap, List.map_cons, Text.intercalate_cons,
    List.flatMap_map]
  simp [Member.onLine, SpacedMember.chars, SpacedValue.chars]

/-- A written value is spelt as it comes back. -/
theorem Value.Written.spelled {v : Value} (h : v.Written) (depth : Nat) :
    v.reread.Spelled (v.render depth) := by
  induction h generalizing depth with
  | null => exact .null
  | bool b =>
    cases b with
    | false => exact .false
    | true => exact .true
  | ofNat n =>
    have hrender : (Value.ofNat n).render depth = Nat.toDigits 10 n := by
      simp [Value.ofNat, Value.render, Number.render]
    rw [hrender]
    exact .number (spelled_toDigits n)
  | ofString s => exact .string (spelled_ofString s)
  | @list items _ ih =>
    by_cases hnil : items = []
    · subst hnil
      exact @Value.Spelled.list [] [] spaces_nil (by simp) (by simp)
    · rw [render_list hnil, Value.reread, rereadItems_eq_map]
      have hspelled := @Value.Spelled.list (items.map (Value.onLine (depth + 1)))
        _ (spaces_newLine depth)
        (List.forall_mem_map.mpr fun v _ => spaced_onLine (depth + 1) v)
        (List.forall_mem_map.mpr fun v hv => ih v hv (depth + 1))
      rwa [List.map_map, List.map_map] at hspelled
  | @object members _ ih =>
    by_cases hnil : members = []
    · subst hnil
      exact @Value.Spelled.object [] [] spaces_nil (by simp) (by simp)
    · rw [render_object hnil, Value.reread, rereadMembers_eq_map, List.map_map]
      have hspelled := @Value.Spelled.object (members.map (Member.onLine (depth + 1)))
        _ (spaces_newLine depth)
        (List.forall_mem_map.mpr fun m _ => Member.spaced_onLine (depth + 1) m)
        (List.forall_mem_map.mpr fun m hm => ih m hm (depth + 1))
      rwa [List.map_map, List.map_map] at hspelled

/-- The text of a written value is JSON. -/
theorem Value.Written.spells {v : Value} (h : v.Written) : Spells v.toText v.reread := by
  refine ⟨⟨[], v.reread, v.render 0, ['\n']⟩, rfl, ⟨spaces_nil, fun c hc => ?_⟩, h.spelled 0, ?_⟩
  · rw [List.mem_singleton.mp hc]
    rfl
  · rw [Value.toText, String.toList_ofList]
    rfl

/-- The document that the text of a written value denotes. -/
theorem Document.ofText_toText {v : Value} (h : v.Written) :
    Document.ofText v.toText = ⟨v.reread, false⟩ :=
  ofText_of_spells h.spells

end FormScaffold.Json
