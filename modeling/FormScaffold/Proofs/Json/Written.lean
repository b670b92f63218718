import Mathlib.Data.List.Basic
import FormScaffold.Json.Printer
import FormScaffold.Proofs.Text.Split

/-!
# Values that are written

The values that a program writes are built from texts, natural numbers, the three words, lists and
objects.  Their text holds no control character but line feeds, since those of the texts are
escaped, and every member of an object stands in the text of the object.
-/

namespace FormScaffold.Json

/-- Values without faults, whose texts have no escapes. -/
inductive Value.Written : Value → Prop
  | null : Written .null
  | bool (b : Bool) : Written (.bool b)
  | ofNat (n : Nat) : Written (.ofNat n)
  | ofString (s : String) : Written (.ofString s)
  | list {items : List Value} (h : ∀ v ∈ items, Written v) : Written (.list items .closed)
  | object {members : List (String × Value)} (h : ∀ m ∈ members, Written m.2) :
    Written (.object (members.map fun (key, v) => (.ofString key, v)) .closed)

/-! ## Properties of the text -/

/-- A property of texts that all parts of a written value have, alone and put together. -/
structure TextProperty (P : List Char → Prop) : Prop where
  append {as bs : List Char} : P as → P bs → P (as ++ bs)
  word : ∀ w ∈ ["", "null", "true", "false", "[", "]", "\x7b", "\x7d", ",", ": "], P w.toList
  ofNat (n depth : Nat) : P ((Value.ofNat n).render depth)
  ofString (s : String) : P (RawString.ofString s).render
  newLine (depth : Nat) : P (newLine depth)

namespace TextProperty

variable {P : List Char → Prop} (hp : TextProperty P)
include hp

theorem renderItems {depth : Nat} {vs : List Value} (h : ∀ v ∈ vs, P (v.render depth)) :
    P (renderItems depth vs) := by
  induction vs with
  | nil => exact hp.word "" (by decide)
  | cons v vs ih =>
    rw [Json.renderItems, ← List.singleton_append]
    refine hp.append (hp.word "," (by decide)) ?_
    exact hp.append (hp.append (hp.newLine depth) (h v List.mem_cons_self))
      (ih fun w hw => h w (List.mem_cons_of_mem v hw))

theorem member {depth : Nat} {m : String × Value} (h : P (m.2.render depth)) :
    P (Json.newLine depth ++ (RawString.ofString m.1).render ++ ": ".toList ++
      m.2.render depth) :=
  hp.append (hp.append (hp.append (hp.newLine depth) (hp.ofString m.1))
    (hp.word ": " (by decide))) h

theorem renderMembers {depth : Nat} {members : List (String × Value)}
    (h : ∀ m ∈ members, P (m.2.render depth)) :
    P (renderMembers depth (members.map fun (key, v) => (.ofString key, v))) := by
  induction members with
  | nil => exact hp.word "" (by decide)
  | cons m members ih =>
    rw [List.map_cons, Json.renderMembers, ← List.singleton_append]
    refine hp.append (hp.word "," (by decide)) ?_
    exact hp.append (hp.member (h m List.mem_cons_self))
      (ih fun w hw => h w (List.mem_cons_of_mem m hw))

/-- The text of a written value has the property, at every depth. -/
theorem render {v : Value} (h : v.Written) (depth : Nat) : P (v.render depth) := by
  induction h generalizing depth with
  | null => exact hp.word "null" (by decide)
  | bool b =>
    cases b with
    | false => exact hp.word "false" (by decide)
    | true => exact hp.word "true" (by decide)
  | ofNat n => exact hp.ofNat n depth
  | ofString s => exact hp.ofString s
  | @list items _ ih =>
    have hopen : P ['['] := hp.word "[" (by decide)
    have hclose : P [']'] := hp.word "]" (by decide)
    cases items with
    | nil => exact hp.append hopen hclose
    | cons v vs =>
      rw [Value.render, ← List.singleton_append]
      refine hp.append hopen (hp.append (hp.append ?_ (hp.newLine depth)) hclose)
      refine hp.append (hp.append (hp.newLine _) (ih v List.mem_cons_self _)) ?_
      exact hp.renderItems fun w hw => ih w (List.mem_cons_of_mem v hw) _
  | @object members _ ih =>
    have hopen : P ['\x7b'] := hp.word "\x7b" (by decide)
    have hclose : P ['\x7d'] := hp.word "\x7d" (by decide)
    cases members with
    | nil => exact hp.append hopen hclose
    | cons m members =>
      rw [List.map_cons, Value.render, ← List.singleton_append]
      refine hp.append hopen (hp.append (hp.append ?_ (hp.newLine depth)) hclose)
      refine hp.append (hp.member (ih m List.mem_cons_self _)) ?_
      exact hp.renderMembers fun w hw => ih w (List.mem_cons_of_mem m hw) _

end TextProperty

/-! ## Characters of the text -/

theorem le_toNat_hexDigits (n : Nat) : ∀ c ∈ hexDigits n, 0x20 ≤ c.toNat := by
  have hdigit : ∀ d < 16, 0x20 ≤ (Nat.digitChar d).toNat := by decide
  intro c hc
  obtain ⟨d, hd, rfl⟩ := List.mem_map.mp hc
  simp only [List.mem_cons, List.not_mem_nil, or_false] at hd
  rcases hd with rfl | rfl | rfl | rfl <;> exact hdigit _ (Nat.mod_lt _ (by decide))

theorem le_toNat_escapeChar (c : Char) : ∀ d ∈ escapeChar c, 0x20 ≤ d.toNat := by
  intro d hd
  unfold escapeChar at hd
  split at hd
  case h_8 =>
    split at hd
    · rcases List.mem_cons.mp hd with rfl | hd
      · decide
      · rcases List.mem_cons.mp hd with rfl | hd
        · decide
        · exact le_toNat_hexDigits _ d hd
    · next hle =>
      rw [List.mem_singleton.mp hd]
      exact Nat.le_of_not_lt hle
  all_goals
    simp only [List.mem_cons, List.not_mem_nil, or_false] at hd
    rcases hd with rfl | rfl <;> decide

/-- The text of a string holds no control character. -/
theorem le_toNat_ofString (s : String) :
    ∀ c ∈ (RawString.ofString s).render, 0x20 ≤ c.toNat := by
  intro c hc
  rw [RawString.render, List.mem_cons, List.mem_append, List.mem_singleton] at hc
  rcases hc with rfl | hc | rfl
  · decide
  · obtain ⟨u, hu, hc⟩ := List.mem_flatMap.mp hc
    obtain ⟨d, -, rfl⟩ := List.mem_map.mp hu
    exact le_toNat_escapeChar d c hc
  · decide

theorem isDigit_of_mem_render_ofNat {n depth : Nat} {c : Char}
    (h : c ∈ (Value.ofNat n).render depth) : c.isDigit = true := by
  have hmem : c ∈ Nat.toDigits 10 n := by
    simpa [Value.ofNat, Value.render, Number.render] using h
  exact Nat.isDigit_of_mem_toDigits (by decide) (by decide) hmem

/-- A character that JSON shows as it is, or a line feed between tokens. -/
def IsShown (c : Char) : Prop := 0x20 ≤ c.toNat ∨ c = '\n'

instance (c : Char) : Decidable (IsShown c) := inferInstanceAs (Decidable (_ ∨ _))

theorem textProperty_isShown : TextProperty fun cs => ∀ c ∈ cs, IsShown c where
  append ha hb c hc := (List.mem_append.mp hc).elim (ha c) (hb c)
  word w hw := by
    refine Text.forall_mem_of_all ?_
    revert w
    decide
  ofNat n depth c hc := by
    have hdigit := isDigit_of_mem_render_ofNat hc
    rw [Char.isDigit, Bool.and_eq_true, decide_eq_true_eq] at hdigit
    exact .inl (Nat.le_trans (by decide) hdigit.1)
  ofString s c hc := .inl (le_toNat_ofString s c hc)
  newLine depth c hc := by
    rcases List.mem_cons.mp hc with rfl | hc
    · exact .inr rfl
    · rw [List.eq_of_mem_replicate hc]
      exact .inl (by decide)

/-- Control characters never stand in the text of a written value as they are. -/
theorem Value.Written.isShown_toText {v : Value} (h : v.Written) :
    ∀ c ∈ v.toText.toList, IsShown c := by
  intro c hc
  rw [Value.toText, String.toList_ofList, List.mem_append] at hc
  rcases hc with hc | hc
  · exact textProperty_isShown.render h 0 c hc
  · exact .inr (List.mem_singleton.mp hc)

/-! ## Lines of the text -/

theorem textProperty_noLineStarts : TextProperty (Text.NoLineStarts 'i') where
  append := Text.NoLineStarts.append
  word w hw := by
    refine Text.noLineStarts_of_notMem ?_ ?_
    · revert w
      decide
    · revert w
      decide
  ofNat n depth := by
    refine Text.noLineStarts_of_notMem (fun hc => ?_) (fun hc => ?_)
    · exact absurd (isDigit_of_mem_render_ofNat hc) (by decide)
    · exact absurd (isDigit_of_mem_render_ofNat (List.mem_of_mem_head? hc)) (by decide)
  ofString s := by
    refine Text.noLineStarts_of_notMem (fun hc => ?_) (by simp [RawString.render])
    exact absurd (le_toNat_ofString s _ hc) (by decide)
  newLine depth := by
    have hfeed : Text.NoLineStarts 'i' ['\n'] := by simp [Text.NoLineStarts]
    refine hfeed.append (Text.noLineStarts_of_notMem (fun hc => ?_) (fun hc => ?_))
    · exact absurd (List.eq_of_mem_replicate hc) (by decide)
    · exact absurd (List.eq_of_mem_replicate (List.mem_of_mem_head? hc)) (by decide)

/-- No line of a written value can be taken for an import. -/
theorem Value.Written.noLineStarts_toText {v : Value} (h : v.Written) :
    Text.NoLineStarts 'i' v.toText.toList := by
  rw [Value.toText, String.toList_ofList]
  exact (textProperty_noLineStarts.render h 0).append (by simp [Text.NoLineStarts])

/-! ## Members of an object -/

theorem isInfix_renderMembers {depth : Nat} {members : List Member} {m : Member}
    (h : m ∈ members) : m.2.render depth <:+: renderMembers depth members := by
  induction members with
  | nil => exact absurd h List.not_mem_nil
  | cons n members ih =>
    rw [renderMembers]
    rcases List.mem_cons.mp h with rfl | h
    · exact ⟨',' :: (newLine depth ++ m.1.render ++ ": ".toList), renderMembers depth members,
        by simp⟩
    · exact (ih h).trans ((List.suffix_append _ _).trans (List.suffix_cons _ _)).isInfix

/-- The text of an object holds the texts of its members. -/
theorem isInfix_render_object {depth : Nat} {members : List Member} {m : Member}
    (h : m ∈ members) (ending : Ending) :
    m.2.render (depth + 1) <:+: (Value.object members ending).render depth := by
  cases members with
  | nil => exact absurd h List.not_mem_nil
  | cons n members =>
    rw [Value.render]
    rcases List.mem_cons.mp h with rfl | h
    · exact ⟨'\x7b' :: (newLine (depth + 1) ++ m.1.render ++ ": ".toList),
        renderMembers (depth + 1) members ++ newLine depth ++ ['\x7d'], by simp⟩
    · refine (isInfix_renderMembers h).trans ?_
      exact ⟨'\x7b' :: (newLine (depth + 1) ++ n.1.render ++ ": ".toList ++
        n.2.render (depth + 1)), newLine depth ++ ['\x7d'], by simp⟩

/-- A character that is neither a quote nor a backslash nor a control character is not escaped. -/
theorem escapeChar_eq_singleton {c : Char} (hquote : c ≠ '\x22') (hslash : c ≠ '\\')
    (hcontrol : 0x20 ≤ c.toNat) : escapeChar c = [c] := by
  unfold escapeChar
  split
  case h_8 => rw [if_neg (Nat.not_lt.mpr hcontrol)]
  all_goals first
    | exact absurd rfl hquote
    | exact absurd rfl hslash
    | exact absurd hcontrol (by decide)

/-- A text of such characters stands in its string as it is. -/
theorem isInfix_render_ofString {s : String} (hquote : '\x22' ∉ s.toList) (hslash : '\\' ∉ s.toList)
    (hcontrol : ∀ c ∈ s.toList, 0x20 ≤ c.toNat) :
    s.toList <:+: (RawString.ofString s).render := by
  have hescape : ∀ c ∈ s.toList, escapeChar c = [c] := fun c hc =>
    escapeChar_eq_singleton (fun h => hquote (h ▸ hc)) (fun h => hslash (h ▸ hc)) (hcontrol c hc)
  have hunits : (s.toList.map .char).flatMap StringUnit.render = s.toList := by
    rw [List.flatMap_map]
    calc s.toList.flatMap (fun c => StringUnit.render (.char c))
      _ = s.toList.flatMap fun c => [c] := List.flatMap_congr hescape
      _ = s.toList := List.flatMap_singleton' _
  rw [RawString.render, RawString.ofString, hunits]
  exact ⟨['\x22'], ['\x22'], rfl⟩

end FormScaffold.Json
