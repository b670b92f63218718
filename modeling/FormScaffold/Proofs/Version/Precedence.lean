import FormScaffold.Proofs.Version.Text

/-!
# Precedence of versions

A version precedes another by the first of its three numbers that differs, and then by its
pre-release; build data does not count.  The order by which a warning is given goes further: of two
versions with the same precedence, the one whose build data comes first is the older one
(`cmp_eq_lt_iff`).  So there is a warning exactly when the other version is newer in this sense
(`warns_iff`), and versions that differ in their build data alone are warned about too
(`warns_of_build`).
-/

namespace FormScaffold.Version

open Text (AllDigits value compareChars compareLists)

/-! ## Numbers -/

/-- Numbers without zeros in front come in the order of their values. -/
theorem comparePlain_eq_lt_iff {a b : List Char} (ha : AllDigits a) (hb : AllDigits b)
    (hlonger : a.length < b.length → value a < value b)
    (hshorter : b.length < a.length → value b < value a) :
    comparePlain a b = .lt ↔ value a < value b := by
  rw [comparePlain, Ordering.then_eq_lt, Nat.compare_eq_lt, Nat.compare_eq_eq,
    Text.compareChars_eq_lt_iff]
  rcases Nat.lt_trichotomy a.length b.length with hlt | heq | hgt
  · exact iff_of_true (.inl hlt) (hlonger hlt)
  · simp [heq, ha.lt_iff_value_lt hb heq]
  · have hvalue := hshorter hgt
    exact iff_of_false (by omega) (by omega)

/-- A longer number of a pre-release has the larger value. -/
theorem value_lt_of_isPreIdentifier {a b : List Char} (ha : AllDigits a) (hb : AllDigits b)
    (hpre : isPreIdentifier a = true) (hpre' : isPreIdentifier b = true)
    (h : a.length < b.length) : value a < value b := by
  have hplain : isPlainNumeral b = true := by
    have hor := (Bool.and_eq_true_iff.mp hpre').2
    rwa [all_isDigitChar_iff.mpr hb] at hor
  obtain ⟨hne, -, rfl | hzero⟩ := isPlainNumeral_iff.mp hplain
  · have hnil : a = [] := List.length_eq_zero_iff.mp (Nat.lt_one_iff.mp h)
    rw [hnil] at hpre
    exact absurd hpre (by decide)
  · exact ha.value_lt_of_length_lt hb hzero h

/-- Of two numbers of build data, one comes first by its value, or by its length if the values are
the same. -/
def PaddedBefore (a b : List Char) : Prop :=
  value a < value b ∨ value a = value b ∧ a.length < b.length

theorem comparePlain_eq_eq_iff {a b : List Char} : comparePlain a b = .eq ↔ a = b := by
  rw [comparePlain, Ordering.then_eq_eq, Nat.compare_eq_eq, Std.LawfulEqCmp.compare_eq_iff_eq]
  exact ⟨fun h => h.2, fun h => ⟨congrArg List.length h, h⟩⟩

theorem comparePadded_eq_lt_iff {a b : List Char} (ha : AllDigits a) (hb : AllDigits b) :
    comparePadded a b = .lt ↔ PaddedBefore a b := by
  have hdigits := ha.dropWhile (· = '0')
  have hdigits' := hb.dropWhile (· = '0')
  have hzero := Text.head?_dropWhile_zero a
  have hzero' := Text.head?_dropWhile_zero b
  rw [comparePadded, Ordering.then_eq_lt, Nat.compare_eq_lt, comparePlain_eq_eq_iff,
    comparePlain_eq_lt_iff hdigits hdigits' (hdigits.value_lt_of_length_lt hdigits' hzero')
      (hdigits'.value_lt_of_length_lt hdigits hzero),
    Text.value_dropWhile_zero, Text.value_dropWhile_zero, PaddedBefore]
  refine or_congr_right (and_congr_left fun _ => ⟨fun h => ?_, fun h => ?_⟩)
  · rw [← Text.value_dropWhile_zero a, h, Text.value_dropWhile_zero]
  · refine hdigits.eq_of_value_eq hdigits' hzero hzero' ?_
    rw [Text.value_dropWhile_zero, Text.value_dropWhile_zero, h]

theorem comparePadded_eq_eq_iff {a b : List Char} : comparePadded a b = .eq ↔ a = b := by
  have hsplit (cs : List Char) :
      cs = List.replicate (cs.length - (cs.dropWhile (· = '0')).length) '0' ++
        cs.dropWhile (· = '0') := by
    induction cs with
    | nil => rfl
    | cons c cs ih =>
      rw [List.dropWhile_cons]
      split
      · next hc =>
        have hle := (List.dropWhile_sublist (· = '0') (l := cs)).length_le
        rw [List.length_cons, Nat.succ_sub hle, List.replicate_succ, List.cons_append, ← ih,
          of_decide_eq_true hc]
      · simp
  rw [comparePadded, Ordering.then_eq_eq, comparePlain_eq_eq_iff, Nat.compare_eq_eq]
  constructor
  · rintro ⟨hstripped, hlength⟩
    rw [hsplit a, hsplit b, hstripped, hlength]
  · rintro rfl
    exact ⟨rfl, rfl⟩

/-! ## Identifiers -/

/-- Identifiers in their order: numbers before words, numbers in an order of their own, and words
by their first different character. -/
inductive IdentifierBefore (numberBefore : List Char → List Char → Prop) :
    List Char → List Char → Prop
  | numbers {a b : List Char} : AllDigits a → AllDigits b → numberBefore a b →
    IdentifierBefore numberBefore a b
  | numberWord {a b : List Char} : AllDigits a → ¬AllDigits b → IdentifierBefore numberBefore a b
  | words {a b : List Char} : ¬AllDigits a → ¬AllDigits b → a < b →
    IdentifierBefore numberBefore a b

section

variable {compareNumbers : List Char → List Char → Ordering}

theorem compareIdentifiers_eq_lt_iff {numberBefore : List Char → List Char → Prop}
    {a b : List Char}
    (h : AllDigits a → AllDigits b → (compareNumbers a b = .lt ↔ numberBefore a b)) :
    compareIdentifiers compareNumbers a b = .lt ↔ IdentifierBefore numberBefore a b := by
  rw [compareIdentifiers]
  split
  · next ha hb =>
    have ha := all_isDigitChar_iff.mp ha
    have hb := all_isDigitChar_iff.mp hb
    rw [h ha hb]
    refine ⟨.numbers ha hb, fun hbefore => ?_⟩
    cases hbefore with
    | numbers _ _ hnumber => exact hnumber
    | numberWord _ hword => exact absurd hb hword
    | words hword => exact absurd ha hword
  · next ha hb =>
    rw [← Bool.not_eq_true, all_isDigitChar_iff] at hb
    exact iff_of_true rfl (.numberWord (all_isDigitChar_iff.mp ha) hb)
  · next ha hb =>
    rw [← Bool.not_eq_true, all_isDigitChar_iff] at ha
    refine iff_of_false (by simp) fun hbefore => ?_
    cases hbefore with
    | numbers hnumber => exact ha hnumber
    | numberWord hnumber => exact ha hnumber
    | words _ hword => exact hword (all_isDigitChar_iff.mp hb)
  · next ha hb =>
    rw [← Bool.not_eq_true, all_isDigitChar_iff] at ha hb
    rw [Text.compareChars_eq_lt_iff]
    refine ⟨.words ha hb, fun hbefore => ?_⟩
    cases hbefore with
    | numbers hnumber => exact absurd hnumber ha
    | numberWord hnumber => exact absurd hnumber ha
    | words _ _ hword => exact hword

theorem compareIdentifiers_eq_eq_iff (h : ∀ {a b}, compareNumbers a b = .eq ↔ a = b)
    {a b : List Char} : compareIdentifiers compareNumbers a b = .eq ↔ a = b := by
  rw [compareIdentifiers]
  split
  · exact h
  · next ha hb => exact iff_of_false (by simp) fun heq => by simp [heq, hb] at ha
  · next ha hb => exact iff_of_false (by simp) fun heq => by simp [heq, hb] at ha
  · exact Std.LawfulEqCmp.compare_eq_iff_eq

end

/-! ## The order is one -/

/-- A comparison of what values are taken to. -/
theorem transCmp_on {α β : Type} (f : α → β) (cmp : β → β → Ordering) [Std.TransCmp cmp] :
    Std.TransCmp fun a b => cmp (f a) (f b) where
  eq_swap := Std.OrientedCmp.eq_swap
  isLE_trans h h' := Std.TransCmp.isLE_trans h h'

instance : Std.TransCmp comparePlain :=
  inferInstanceAs (Std.TransCmp (compareLex (compareOn List.length) compareChars))

instance : Std.TransCmp comparePadded :=
  have := transCmp_on (List.dropWhile (· = '0')) comparePlain
  inferInstanceAs (Std.TransCmp (compareLex
    (fun a b => comparePlain (a.dropWhile (· = '0')) (b.dropWhile (· = '0')))
    (compareOn List.length)))

instance (compareNumbers : List Char → List Char → Ordering) [Std.TransCmp compareNumbers] :
    Std.TransCmp (compareIdentifiers compareNumbers) where
  eq_swap {a b} := by
    rw [compareIdentifiers, compareIdentifiers]
    cases a.all isDigitChar <;> cases b.all isDigitChar
    · show compareChars a b = (compareChars b a).swap
      exact Std.OrientedCmp.eq_swap
    · rfl
    · rfl
    · show compareNumbers a b = (compareNumbers b a).swap
      exact Std.OrientedCmp.eq_swap
  isLE_trans {a b c} h h' := by
    rw [compareIdentifiers] at h h' ⊢
    -- a number in the middle has a number before it, and a word in the middle a word behind it
    cases ha : a.all isDigitChar <;> cases hb : b.all isDigitChar <;>
      cases hc : c.all isDigitChar <;> simp only [ha, hb, hc] at h h' ⊢
    · exact Std.TransCmp.isLE_trans h h'
    · exact absurd h' Bool.false_ne_true
    · exact absurd h Bool.false_ne_true
    · exact absurd h Bool.false_ne_true
    · rfl
    · exact absurd h' Bool.false_ne_true
    · rfl
    · exact Std.TransCmp.isLE_trans h h'

/-- A pre-release comes before none, and among themselves they come in their order. -/
theorem comparePre_eq (as bs : List (List Char)) :
    comparePre as bs =
      (compare as.isEmpty bs.isEmpty).then
        (compareLists (compareIdentifiers comparePlain) as bs) := by
  cases as <;> cases bs <;> rfl

instance : Std.TransCmp comparePre := by
  have heq : comparePre = compareLex (compareOn List.isEmpty)
      (compareLists (compareIdentifiers comparePlain)) := by
    funext as bs
    exact comparePre_eq as bs
  rw [heq]
  infer_instance

instance : Std.TransCmp compareBuild :=
  inferInstanceAs (Std.TransCmp (compareLists (compareIdentifiers comparePadded)))

instance : Std.TransCmp cmp :=
  have := transCmp_on Version.pre comparePre
  have := transCmp_on Version.build compareBuild
  inferInstanceAs (Std.TransCmp (compareLex (compareOn major) (compareLex (compareOn minor)
    (compareLex (compareOn patch) (compareLex (fun v w => comparePre v.pre w.pre)
      fun v w => compareBuild v.build w.build)))))

/-! ## Precedence -/

/-- The numbers of pre-releases come in the order of their values. -/
def ValueBefore (a b : List Char) : Prop := value a < value b

/-- Pre-releases in their order: by their first different identifier, and of two that agree as far
as both go the shorter one first.  Any pre-release comes before none. -/
inductive PreBefore : List (List Char) → List (List Char) → Prop
  | release (id : List Char) (ids : List (List Char)) : PreBefore (id :: ids) []
  | identifiers {as bs : List (List Char)} : as ≠ [] →
    List.Lex (IdentifierBefore ValueBefore) as bs → PreBefore as bs

/-- Build data in its order: none comes before any. -/
def BuildBefore : List (List Char) → List (List Char) → Prop :=
  List.Lex (IdentifierBefore PaddedBefore)

/-- A version has lower precedence than another. -/
inductive Precedes (v w : Version) : Prop
  | major : v.major < w.major → Precedes v w
  | minor : v.major = w.major → v.minor < w.minor → Precedes v w
  | patch : v.major = w.major → v.minor = w.minor → v.patch < w.patch → Precedes v w
  | pre : v.major = w.major → v.minor = w.minor → v.patch = w.patch → PreBefore v.pre w.pre →
    Precedes v w

/-- Two versions that differ in their build data at most. -/
structure SamePrecedence (v w : Version) : Prop where
  major : v.major = w.major
  minor : v.minor = w.minor
  patch : v.patch = w.patch
  pre : v.pre = w.pre

theorem lex_congr {α : Type} {r s : α → α → Prop} {as bs : List α}
    (h : ∀ a ∈ as, ∀ b ∈ bs, (r a b ↔ s a b)) : List.Lex r as bs ↔ List.Lex s as bs := by
  induction as generalizing bs with
  | nil => cases bs <;> simp
  | cons a as ih =>
    cases bs with
    | nil => simp
    | cons b bs =>
      rw [List.cons_lex_cons_iff, List.cons_lex_cons_iff,
        h a List.mem_cons_self b List.mem_cons_self,
        ih fun c hc d hd => h c (List.mem_cons_of_mem a hc) d (List.mem_cons_of_mem b hd)]

instance : Std.LawfulEqCmp (compareIdentifiers comparePlain) where
  compare_self := (compareIdentifiers_eq_eq_iff comparePlain_eq_eq_iff).mpr rfl
  eq_of_compare := (compareIdentifiers_eq_eq_iff comparePlain_eq_eq_iff).mp

instance : Std.LawfulEqCmp (compareIdentifiers comparePadded) where
  compare_self := (compareIdentifiers_eq_eq_iff comparePadded_eq_eq_iff).mpr rfl
  eq_of_compare := (compareIdentifiers_eq_eq_iff comparePadded_eq_eq_iff).mp

theorem compareBuild_eq_lt_iff {as bs : List (List Char)} :
    compareBuild as bs = .lt ↔ BuildBefore as bs := by
  rw [compareBuild, Text.compareLists_eq_lt_iff]
  exact lex_congr fun a _ b _ => compareIdentifiers_eq_lt_iff comparePadded_eq_lt_iff

theorem comparePre_eq_eq_iff {as bs : List (List Char)} : comparePre as bs = .eq ↔ as = bs := by
  rw [comparePre_eq, Ordering.then_eq_eq, Std.LawfulEqCmp.compare_eq_iff_eq,
    Std.LawfulEqCmp.compare_eq_iff_eq]
  exact ⟨fun h => h.2, fun h => ⟨congrArg List.isEmpty h, h⟩⟩

theorem comparePre_eq_lt_iff {as bs : List (List Char)}
    (has : ∀ id ∈ as, isPreIdentifier id = true) (hbs : ∀ id ∈ bs, isPreIdentifier id = true) :
    comparePre as bs = .lt ↔ PreBefore as bs := by
  have hlists : compareLists (compareIdentifiers comparePlain) as bs = .lt ↔
      List.Lex (IdentifierBefore ValueBefore) as bs := by
    rw [Text.compareLists_eq_lt_iff]
    exact lex_congr fun a ha b hb => compareIdentifiers_eq_lt_iff fun hdigits hdigits' =>
      comparePlain_eq_lt_iff hdigits hdigits'
        (value_lt_of_isPreIdentifier hdigits hdigits' (has a ha) (hbs b hb))
        (value_lt_of_isPreIdentifier hdigits' hdigits (hbs b hb) (has a ha))
  have hcompare : comparePre as bs = (compare as.isEmpty bs.isEmpty).then
      (compareLists (compareIdentifiers comparePlain) as bs) := comparePre_eq as bs
  cases as with
  | nil =>
    refine iff_of_false (by cases bs <;> simp [comparePre]) fun hbefore => ?_
    cases hbefore with
    | identifiers hne => exact hne rfl
  | cons a as =>
    cases bs with
    | nil => exact iff_of_true rfl (.release a as)
    | cons b bs =>
      have hboth : comparePre (a :: as) (b :: bs) =
          compareLists (compareIdentifiers comparePlain) (a :: as) (b :: bs) := rfl
      rw [hboth, hlists]
      refine ⟨.identifiers (List.cons_ne_nil a as), fun hbefore => ?_⟩
      cases hbefore with
      | identifiers _ hlex => exact hlex

/-- One version comes before another if it precedes it, or if they differ in their build data
alone and its own comes first. -/
theorem cmp_eq_lt_iff {v w : Version} (hv : v.Valid) (hw : w.Valid) :
    cmp v w = .lt ↔ v.Precedes w ∨ v.SamePrecedence w ∧ BuildBefore v.build w.build := by
  simp only [cmp, Ordering.then_eq_lt, Nat.compare_eq_lt, Nat.compare_eq_eq,
    comparePre_eq_lt_iff hv.pre hw.pre, comparePre_eq_eq_iff, compareBuild_eq_lt_iff]
  constructor
  · rintro (hmajor | ⟨hmajor, hminor | ⟨hminor, hpatch | ⟨hpatch, hpre | ⟨hpre, hbuild⟩⟩⟩⟩)
    · exact .inl (.major hmajor)
    · exact .inl (.minor hmajor hminor)
    · exact .inl (.patch hmajor hminor hpatch)
    · exact .inl (.pre hmajor hminor hpatch hpre)
    · exact .inr ⟨⟨hmajor, hminor, hpatch, hpre⟩, hbuild⟩
  · rintro (hprecedes | ⟨⟨hmajor, hminor, hpatch, hpre⟩, hbuild⟩)
    · cases hprecedes with
      | major hmajor => exact .inl hmajor
      | minor hmajor hminor => exact .inr ⟨hmajor, .inl hminor⟩
      | patch hmajor hminor hpatch => exact .inr ⟨hmajor, .inr ⟨hminor, .inl hpatch⟩⟩
      | pre hmajor hminor hpatch hpre =>
        exact .inr ⟨hmajor, .inr ⟨hminor, .inr ⟨hpatch, .inl hpre⟩⟩⟩
    · exact .inr ⟨hmajor, .inr ⟨hminor, .inr ⟨hpatch, .inr ⟨hpre, hbuild⟩⟩⟩⟩

/-! ## Warnings -/

/-- A text is that of a version, behind any number of `v`. -/
def Denotes (s : String) (v : Version) : Prop := v.Valid ∧ stripMark s = v.chars

theorem denotes_iff {s : String} {v : Version} :
    Denotes s v ↔ ofChars? (stripMark s) = some v := ofChars?_eq_some_iff.symm

/-- There is a warning about a snapshot. -/
def Warns (running written : String) : Prop := (newerWarning? running written).isSome = true

instance (running written : String) : Decidable (Warns running written) :=
  inferInstanceAs (Decidable (_ = true))

theorem warns_iff_cmp {running written : String} :
    Warns running written ↔ ∃ v w, Denotes running v ∧ Denotes written w ∧ cmp v w = .lt := by
  simp only [Warns, newerWarning?, denotes_iff]
  cases ofChars? (stripMark running) with
  | none => simp
  | some v =>
    cases ofChars? (stripMark written) with
    | none => simp
    | some w => by_cases h : cmp v w = .lt <;> simp [h]

theorem Denotes.unique {s : String} {v w : Version} (hv : Denotes s v) (hw : Denotes s w) :
    v = w :=
  Option.some.inj ((denotes_iff.mp hv).symm.trans (denotes_iff.mp hw))

/-- There is no warning about a snapshot of the running version. -/
theorem newerWarning?_self (s : String) : newerWarning? s s = none := by
  simp only [newerWarning?]
  cases ofChars? (stripMark s) with
  | none => rfl
  | some v => simp [Std.ReflCmp.compare_self]

/-- There is a warning exactly when both texts are those of versions and the running one precedes
the other, or has the same precedence and build data that comes first.  There is never a warning in
both directions, and what is newer than a newer version is newer. -/
theorem warns_iff (a b c : String) :
    (Warns a b ↔ ∃ v w, Denotes a v ∧ Denotes b w ∧
        (v.Precedes w ∨ v.SamePrecedence w ∧ BuildBefore v.build w.build)) ∧
      (Warns a b → ¬Warns b a) ∧ (Warns a b → Warns b c → Warns a c) := by
  refine ⟨?_, fun h h' => ?_, fun h h' => ?_⟩
  · rw [warns_iff_cmp]
    refine exists_congr fun v => exists_congr fun w => ?_
    refine and_congr_right fun hv => and_congr_right fun hw => cmp_eq_lt_iff hv.1 hw.1
  · obtain ⟨v, w, hv, hw, hlt⟩ := warns_iff_cmp.mp h
    obtain ⟨w', v', hw', hv', hlt'⟩ := warns_iff_cmp.mp h'
    have hswap : cmp w v = (cmp v w).swap := Std.OrientedCmp.eq_swap
    rw [hw'.unique hw, hv'.unique hv, hswap, hlt] at hlt'
    exact absurd hlt' (by decide)
  · obtain ⟨u, v, hu, hv, hlt⟩ := warns_iff_cmp.mp h
    obtain ⟨v', w, hv', hw, hlt'⟩ := warns_iff_cmp.mp h'
    rw [hv'.unique hv] at hlt'
    exact warns_iff_cmp.mpr ⟨u, w, hu, hw, Std.TransCmp.lt_trans hlt hlt'⟩

/-- Build data alone makes a version count as newer. -/
theorem warns_of_build :
    ¬∀ running written, Warns running written ↔
      ∃ v w, Denotes running v ∧ Denotes written w ∧ v.Precedes w := by
  intro h
  have hwarns : Warns "0.1.1" "0.1.1+1" := by decide
  obtain ⟨v, w, hv, hw, hprecedes⟩ := (h _ _).mp hwarns
  have hv' : Denotes "0.1.1" ⟨0, 1, 1, [], []⟩ := denotes_iff.mpr (by decide)
  have hw' : Denotes "0.1.1+1" ⟨0, 1, 1, [], [['1']]⟩ := denotes_iff.mpr (by decide)
  rw [hv.unique hv', hw.unique hw'] at hprecedes
  cases hprecedes with
  | major hlt => exact absurd hlt (by decide)
  | minor _ hlt => exact absurd hlt (by decide)
  | patch _ _ hlt => exact absurd hlt (by decide)
  | pre _ _ _ hpre =>
    cases hpre with
    | identifiers hne => exact hne rfl

end FormScaffold.Version
