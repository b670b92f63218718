import FormScaffold.Proofs.Text.Numeral
import FormScaffold.Proofs.Text.Token
import FormScaffold.Version

/-!
# The texts of versions

A version has one text: its three numbers without zeros in front and with dots between them, the
identifiers of its pre-release behind a hyphen and those of its build data behind a plus sign.  It
is read from this text and from no other (`ofChars?_eq_some_iff`).
-/

namespace FormScaffold.Version

open Text (AllDigits)

/-! ## Numbers -/

theorem all_isDigitChar_iff {cs : List Char} : cs.all isDigitChar = true ↔ AllDigits cs :=
  List.all_eq_true

theorem isPlainNumeral_iff {cs : List Char} :
    isPlainNumeral cs = true ↔
      cs ≠ [] ∧ AllDigits cs ∧ (cs = ['0'] ∨ cs.head? ≠ some '0') := by
  unfold isPlainNumeral
  split
  · simp
  · simp [AllDigits]
  · next rest hrest => simpa using fun _ => hrest
  · next hnil _ hzero =>
    have hhead : cs.head? ≠ some '0' := by
      intro hhead
      obtain ⟨rest, rfl⟩ := List.head?_eq_some_iff.mp hhead
      exact hzero rest rfl
    rw [all_isDigitChar_iff]
    exact ⟨fun h => ⟨hnil, h, .inr hhead⟩, fun h => h.2.1⟩

/-- A number is read from its digits. -/
theorem number?_eq_some_iff {cs : List Char} {n : Nat} :
    number? cs = some n ↔ cs = Nat.toDigits 10 n ∧ n ≤ Text.word64 := by
  have hread : (Text.readDigits? 10 cs).filter (· ≤ Text.word64) = some n ↔
      (cs ≠ [] ∧ AllDigits cs ∧ Text.value cs = n) ∧ n ≤ Text.word64 := by
    rw [Option.filter_eq_some_iff, Text.readDigits?_ten_eq_some_iff, decide_eq_true_iff]
    rfl
  rw [number?, Text.eq_toDigits_iff]
  split
  · next hplain =>
    obtain ⟨-, -, hzero⟩ := isPlainNumeral_iff.mp hplain
    rw [hread]
    simp [hzero]
  · next hplain =>
    rw [isPlainNumeral_iff] at hplain
    refine iff_of_false (by simp) ?_
    rintro ⟨⟨hne, hdigits, hzero, -⟩, -⟩
    exact hplain ⟨hne, hdigits, hzero⟩

/-! ## Identifiers -/

theorem notMem_of_isBuildIdentifier {id : List Char} (h : isBuildIdentifier id = true) {c : Char}
    (hc : isIdentifierChar c = false) : c ∉ id := by
  intro hmem
  have hall := (Bool.and_eq_true_iff.mp h).2
  exact absurd (List.all_eq_true.mp hall c hmem) (by simp [hc])

theorem isBuildIdentifier_of_isPreIdentifier {id : List Char} (h : isPreIdentifier id = true) :
    isBuildIdentifier id = true :=
  (Bool.and_eq_true_iff.mp h).1

/-- Identifiers behind a mark, with dots between them.  Without identifiers there is no mark. -/
def marked (mark : Char) (ids : List (List Char)) : List Char :=
  if ids = [] then [] else mark :: ['.'].intercalate ids

theorem notMem_marked {mark c : Char} {ids : List (List Char)} (hmark : c ≠ mark) (hdot : c ≠ '.')
    (h : ∀ id ∈ ids, c ∉ id) : c ∉ marked mark ids := by
  rw [marked]
  split
  · exact List.not_mem_nil
  · intro hc
    rcases List.mem_cons.mp hc with hc | hc
    · exact hmark hc
    · rcases Text.mem_intercalate hc with hc | ⟨id, hid, hc⟩
      · exact hdot (List.mem_singleton.mp hc)
      · exact h id hid hc

section

variable {mark : Char} {test : List Char → Bool} (htest : ∀ id, test id = true → '.' ∉ id)
include htest

theorem identifiers?_eq_some_iff {cs : List Char} {ids : List (List Char)} :
    identifiers? test cs = some ids ↔
      ids ≠ [] ∧ (∀ id ∈ ids, test id = true) ∧ cs = ['.'].intercalate ids := by
  have hsplit : identifiers? test cs = some ids ↔
      Text.split (· = '.') cs = ids ∧ ∀ id ∈ ids, test id = true := by
    rw [identifiers?]
    split
    · next hall =>
      rw [Option.some_inj]
      exact ⟨fun h => ⟨h, h ▸ List.all_eq_true.mp hall⟩, fun h => h.1⟩
    · next hall =>
      refine iff_of_false (by simp) ?_
      rintro ⟨rfl, h⟩
      exact hall (List.all_eq_true.mpr h)
  rw [hsplit, Text.split_eq_iff]
  constructor
  · rintro ⟨⟨hne, hjoin, -⟩, h⟩
    exact ⟨hne, h, hjoin.symm⟩
  · rintro ⟨hne, h, rfl⟩
    exact ⟨⟨hne, rfl, fun id hid => htest id (h id hid)⟩, h⟩

theorem cutIdentifiers?_eq_some_iff {cs before : List Char} {ids : List (List Char)} :
    cutIdentifiers? mark test cs = some (before, ids) ↔
      mark ∉ before ∧ (∀ id ∈ ids, test id = true) ∧ cs = before ++ marked mark ids := by
  rw [cutIdentifiers?]
  cases hcut : Text.cutFirst (· = mark) cs with
  | none =>
    have hnone : mark ∉ cs := fun hmem =>
      absurd (Text.cutFirst_eq_none_iff.mp hcut mark hmem) (by simp)
    constructor
    · intro h
      obtain ⟨rfl, rfl⟩ := Prod.mk.inj (Option.some.inj h)
      exact ⟨hnone, by simp, by simp [marked]⟩
    · rintro ⟨hbefore, -, rfl⟩
      by_cases hids : ids = []
      · simp [hids, marked]
      · exact absurd (by simp [marked, hids]) hnone
  | some parts =>
    obtain ⟨front, back⟩ := parts
    obtain ⟨c, hc, rfl, hfront⟩ := Text.cutFirst_eq_some_iff.mp hcut
    obtain rfl := of_decide_eq_true hc
    have hnotMem : c ∉ front := fun hmem => absurd (hfront c hmem) (by simp)
    simp only [Option.map_eq_some_iff, Prod.mk.injEq, identifiers?_eq_some_iff htest]
    constructor
    · rintro ⟨ids, ⟨hne, h, rfl⟩, rfl, rfl⟩
      exact ⟨hnotMem, h, by simp [marked, hne]⟩
    · rintro ⟨hbefore, h, heq⟩
      by_cases hids : ids = []
      · rw [hids, marked, if_pos rfl, List.append_nil] at heq
        exact absurd (heq ▸ List.mem_append_right front List.mem_cons_self) hbefore
      · rw [marked, if_neg hids] at heq
        have hother : ∀ d ∈ before, decide (d = c) = false := fun d hd =>
          decide_eq_false fun hdc => hbefore (hdc ▸ hd)
        have hcut' := Text.cutFirst_append_cons hother (decide_eq_true rfl) (['.'].intercalate ids)
        rw [← heq, hcut] at hcut'
        obtain ⟨rfl, rfl⟩ := Prod.mk.inj (Option.some.inj hcut')
        exact ⟨ids, ⟨hids, h, rfl⟩, rfl, rfl⟩

end

/-! ## Versions -/

/-- The numbers of a version fit into 64 bits, and its identifiers are well-formed. -/
structure Valid (v : Version) : Prop where
  major : v.major ≤ Text.word64
  minor : v.minor ≤ Text.word64
  patch : v.patch ≤ Text.word64
  pre : ∀ id ∈ v.pre, isPreIdentifier id = true
  build : ∀ id ∈ v.build, isBuildIdentifier id = true

/-- The three numbers, with dots between them. -/
def core (v : Version) : List Char :=
  ['.'].intercalate [Nat.toDigits 10 v.major, Nat.toDigits 10 v.minor, Nat.toDigits 10 v.patch]

/-- The characters of a version. -/
def chars (v : Version) : List Char := v.core ++ marked '-' v.pre ++ marked '+' v.build

theorem notMem_core (v : Version) {c : Char} (hdigit : c.isDigit = false) (hdot : c ≠ '.') :
    c ∉ v.core := by
  intro hc
  rcases Text.mem_intercalate hc with hc | ⟨digits, hdigits, hc⟩
  · exact hdot (List.mem_singleton.mp hc)
  · simp only [List.mem_cons, List.not_mem_nil, or_false] at hdigits
    rcases hdigits with rfl | rfl | rfl <;>
      exact absurd (Text.allDigits_toDigits _ c hc) (by simp [hdigit])

theorem split_core (v : Version) :
    Text.split (· = '.') v.core =
      [Nat.toDigits 10 v.major, Nat.toDigits 10 v.minor, Nat.toDigits 10 v.patch] := by
  refine Text.split_intercalate (List.cons_ne_nil _ _) fun digits hdigits hdot => ?_
  simp only [List.mem_cons, List.not_mem_nil, or_false] at hdigits
  rcases hdigits with rfl | rfl | rfl <;>
    exact absurd (Text.allDigits_toDigits _ '.' hdot) (by decide)

/-- A version is read from its own text and from no other. -/
theorem ofChars?_eq_some_iff {cs : List Char} {v : Version} :
    ofChars? cs = some v ↔ v.Valid ∧ cs = v.chars := by
  have hbuild : ∀ id, isBuildIdentifier id = true → '.' ∉ id :=
    fun id hid => notMem_of_isBuildIdentifier hid (by decide)
  have hpre : ∀ id, isPreIdentifier id = true → '.' ∉ id :=
    fun id hid => hbuild id (isBuildIdentifier_of_isPreIdentifier hid)
  constructor
  · intro h
    obtain ⟨⟨front, build⟩, hfront, hrest⟩ := Option.bind_eq_some_iff.mp h
    obtain ⟨-, hbuilds, rfl⟩ := (cutIdentifiers?_eq_some_iff hbuild).mp hfront
    obtain ⟨⟨core, pre⟩, hcore, hnumbers⟩ := Option.bind_eq_some_iff.mp hrest
    obtain ⟨-, hpres, rfl⟩ := (cutIdentifiers?_eq_some_iff hpre).mp hcore
    dsimp only at hnumbers
    split at hnumbers
    · next major minor patch hsplit =>
      obtain ⟨m, hm, hnumbers⟩ := Option.bind_eq_some_iff.mp hnumbers
      obtain ⟨n, hn, hnumbers⟩ := Option.bind_eq_some_iff.mp hnumbers
      obtain ⟨p, hp, hnumbers⟩ := Option.bind_eq_some_iff.mp hnumbers
      obtain rfl := Option.some.inj hnumbers
      obtain ⟨rfl, hmle⟩ := number?_eq_some_iff.mp hm
      obtain ⟨rfl, hnle⟩ := number?_eq_some_iff.mp hn
      obtain ⟨rfl, hple⟩ := number?_eq_some_iff.mp hp
      refine ⟨⟨hmle, hnle, hple, hpres, hbuilds⟩, ?_⟩
      rw [← (Text.split_eq_iff.mp hsplit).intercalate_eq]
      rfl
    · exact absurd hnumbers (by simp)
  · rintro ⟨hvalid, rfl⟩
    have hplus : '+' ∉ v.core ++ marked '-' v.pre := by
      rw [List.mem_append, not_or]
      refine ⟨v.notMem_core rfl (by decide), notMem_marked (by decide) (by decide) fun id hid => ?_⟩
      exact notMem_of_isBuildIdentifier
        (isBuildIdentifier_of_isPreIdentifier (hvalid.pre id hid)) (by decide)
    have hhyphen : '-' ∉ v.core := v.notMem_core rfl (by decide)
    have hfront := (cutIdentifiers?_eq_some_iff hbuild).mpr ⟨hplus, hvalid.build, rfl⟩
    have hcore := (cutIdentifiers?_eq_some_iff hpre).mpr
      ⟨hhyphen, hvalid.pre, rfl⟩
    rw [ofChars?, chars, hfront]
    simp only [Option.bind_eq_bind, Option.bind_some, hcore, split_core,
      number?_eq_some_iff.mpr ⟨rfl, hvalid.major⟩, number?_eq_some_iff.mpr ⟨rfl, hvalid.minor⟩,
      number?_eq_some_iff.mpr ⟨rfl, hvalid.patch⟩]
    rfl

end FormScaffold.Version
