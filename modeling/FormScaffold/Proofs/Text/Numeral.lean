import Mathlib.Data.Char
import Mathlib.Tactic.Ring
import FormScaffold.Proofs.Text.Order

/-!
# The order of numerals

Digits in front count more than all that stand behind them.  So numerals of the same length come in
the order of their values (`AllDigits.lt_iff_value_lt`), a longer one that does not begin with a
zero has the larger value (`AllDigits.value_lt_of_length_lt`), and a value has only one numeral
without zeros in front (`eq_toDigits_iff`).
-/

namespace FormScaffold.Text

/-- Digits and nothing else. -/
def AllDigits (cs : List Char) : Prop := ∀ c ∈ cs, c.isDigit = true

instance (cs : List Char) : Decidable (AllDigits cs) :=
  inferInstanceAs (Decidable (∀ c ∈ cs, c.isDigit = true))

/-- The number that digits denote. -/
def value (cs : List Char) : Nat := Nat.ofDigitChars 10 cs 0

variable {c : Char} {a b cs : List Char}

theorem AllDigits.head (h : AllDigits (c :: cs)) : 0x30 ≤ c.toNat ∧ c.toNat ≤ 0x39 :=
  Char.isDigit_iff_toNat.mp (h c List.mem_cons_self)

theorem AllDigits.tail (h : AllDigits (c :: cs)) : AllDigits cs :=
  fun d hd => h d (List.mem_cons_of_mem c hd)

theorem value_cons (c : Char) (cs : List Char) :
    value (c :: cs) = (c.toNat - 0x30) * 10 ^ cs.length + value cs := by
  have hzero : '0'.toNat = 0x30 := rfl
  rw [value, Nat.ofDigitChars_cons, Nat.ofDigitChars_eq_ofDigitChars_zero, value, hzero]
  ring

theorem AllDigits.value_lt (h : AllDigits cs) : value cs < 10 ^ cs.length := by
  induction cs with
  | nil => decide
  | cons c cs ih =>
    have hc : c.toNat - 0x30 ≤ 9 := by have := h.head; omega
    calc value (c :: cs)
      _ = (c.toNat - 0x30) * 10 ^ cs.length + value cs := value_cons c cs
      _ < 9 * 10 ^ cs.length + 10 ^ cs.length :=
        Nat.add_lt_add_of_le_of_lt (Nat.mul_le_mul_right _ hc) (ih h.tail)
      _ = 10 ^ (c :: cs).length := by rw [List.length_cons, Nat.pow_succ]; ring

/-- A digit in front counts more than all that stand behind it. -/
theorem AllDigits.value_lt_of_head_lt {d : Char} (ha : AllDigits (c :: a))
    (hlength : a.length = b.length) (h : c < d) : value (c :: a) < value (d :: b) := by
  have hdigit : c.toNat - 0x30 + 1 ≤ d.toNat - 0x30 := by
    have hlt : c.toNat < d.toNat := h
    have := ha.head
    omega
  calc value (c :: a)
    _ = (c.toNat - 0x30) * 10 ^ b.length + value a := by rw [value_cons, hlength]
    _ < (c.toNat - 0x30) * 10 ^ b.length + 10 ^ b.length :=
      Nat.add_lt_add_left (hlength ▸ ha.tail.value_lt) _
    _ = (c.toNat - 0x30 + 1) * 10 ^ b.length := by ring
    _ ≤ (d.toNat - 0x30) * 10 ^ b.length := Nat.mul_le_mul_right _ hdigit
    _ ≤ value (d :: b) := by rw [value_cons]; exact Nat.le_add_right _ _

/-- Numerals of the same length come in the order of their values. -/
theorem AllDigits.lt_iff_value_lt (ha : AllDigits a) (hb : AllDigits b)
    (hlength : a.length = b.length) : a < b ↔ value a < value b := by
  induction a generalizing b with
  | nil =>
    obtain rfl := List.length_eq_zero_iff.mp hlength.symm
    simp
  | cons c a ih =>
    cases b with
    | nil => exact absurd hlength (by simp)
    | cons d b =>
      have htail : a.length = b.length := Nat.succ.inj hlength
      rw [List.cons_lt_cons_iff]
      rcases lt_trichotomy c d with hlt | rfl | hgt
      · exact iff_of_true (.inl hlt) (ha.value_lt_of_head_lt htail hlt)
      · rw [value_cons, value_cons, htail, Nat.add_lt_add_iff_left, ← ih ha.tail hb.tail htail]
        simp
      · have hvalue := hb.value_lt_of_head_lt htail.symm hgt
        refine iff_of_false ?_ (Nat.lt_asymm hvalue)
        rintro (hlt | ⟨rfl, -⟩)
        · exact lt_asymm hlt hgt
        · exact lt_irrefl _ hgt

/-- The longer numeral has the larger value if it does not begin with a zero. -/
theorem AllDigits.value_lt_of_length_lt (ha : AllDigits a) (hb : AllDigits b)
    (hzero : b.head? ≠ some '0') (h : a.length < b.length) : value a < value b := by
  cases b with
  | nil => exact absurd h (by simp)
  | cons d b =>
    have hd : 1 ≤ d.toNat - 0x30 := by
      have hne : d.toNat ≠ 0x30 := fun heq => hzero (congrArg some (Char.toNat_inj.mp heq))
      have := hb.head
      omega
    calc value a
      _ < 10 ^ a.length := ha.value_lt
      _ ≤ 10 ^ b.length := Nat.pow_le_pow_right (by decide) (Nat.le_of_lt_succ h)
      _ ≤ (d.toNat - 0x30) * 10 ^ b.length := Nat.le_mul_of_pos_left _ hd
      _ ≤ value (d :: b) := by rw [value_cons]; exact Nat.le_add_right _ _

/-- Two numerals of the same value are the same if neither begins with a zero. -/
theorem AllDigits.eq_of_value_eq (ha : AllDigits a) (hb : AllDigits b)
    (hzero : a.head? ≠ some '0') (hzero' : b.head? ≠ some '0') (h : value a = value b) : a = b := by
  have hlength : a.length = b.length := by
    rcases Nat.lt_trichotomy a.length b.length with hlt | heq | hgt
    · exact absurd h (Nat.ne_of_lt (ha.value_lt_of_length_lt hb hzero' hlt))
    · exact heq
    · exact absurd h (Nat.ne_of_gt (hb.value_lt_of_length_lt ha hzero hgt))
  rcases lt_trichotomy a b with hlt | heq | hgt
  · exact absurd h (Nat.ne_of_lt ((ha.lt_iff_value_lt hb hlength).mp hlt))
  · exact heq
  · exact absurd h (Nat.ne_of_gt ((hb.lt_iff_value_lt ha hlength.symm).mp hgt))

/-! ## Zeros in front -/

theorem value_dropWhile_zero (cs : List Char) : value (cs.dropWhile (· = '0')) = value cs := by
  induction cs with
  | nil => rfl
  | cons c cs ih =>
    rw [List.dropWhile_cons]
    split
    · next hc =>
      rw [ih, of_decide_eq_true hc, value_cons]
      simp
    · rfl

theorem head?_dropWhile_zero (cs : List Char) : (cs.dropWhile (· = '0')).head? ≠ some '0' := by
  intro h
  have hnot := List.head?_dropWhile_not (· = '0') cs
  rw [h] at hnot
  exact absurd hnot (by decide)

theorem AllDigits.dropWhile (h : AllDigits cs) (p : Char → Bool) : AllDigits (cs.dropWhile p) :=
  fun c hc => h c ((List.dropWhile_sublist p).subset hc)

theorem allDigits_toDigits (n : Nat) : AllDigits (Nat.toDigits 10 n) :=
  fun _ hc => Nat.isDigit_of_mem_toDigits (by decide) (by decide) hc

theorem value_toDigits (n : Nat) : value (Nat.toDigits 10 n) = n := Nat.ofDigitChars_ten_toDigits

/-- Only zero begins with a zero. -/
theorem head?_toDigits {n : Nat} (h : 0 < n) : (Nat.toDigits 10 n).head? ≠ some '0' := by
  induction n using Nat.strongRecOn with
  | ind n ih =>
    by_cases hlt : n < 10
    · have hdigit : ∀ d < 10, 0 < d → (some (Nat.digitChar d)) ≠ some '0' := by decide
      rw [Nat.toDigits_of_lt_base hlt]
      exact hdigit n hlt h
    · rw [Nat.toDigits_of_base_le (by decide) (by omega),
        List.head?_append_of_ne_nil _ Nat.toDigits_ne_nil]
      exact ih (n / 10) (by omega) (by omega)

/-- The numeral of a number that is written with no more digits than it needs. -/
theorem eq_toDigits_iff {n : Nat} :
    cs = Nat.toDigits 10 n ↔
      cs ≠ [] ∧ AllDigits cs ∧ (cs = ['0'] ∨ cs.head? ≠ some '0') ∧ value cs = n := by
  constructor
  · rintro rfl
    refine ⟨Nat.toDigits_ne_nil, allDigits_toDigits n, ?_, value_toDigits n⟩
    rcases Nat.eq_zero_or_pos n with rfl | hpos
    · exact .inl (Nat.toDigits_zero 10)
    · exact .inr (head?_toDigits hpos)
  · rintro ⟨hne, hdigits, rfl | hzero, rfl⟩
    · rfl
    · have hpos : 0 < value cs := by
        have hlength := List.length_pos_iff.mpr hne
        exact AllDigits.value_lt_of_length_lt (a := []) (by simp [AllDigits]) hdigits hzero hlength
      exact hdigits.eq_of_value_eq (allDigits_toDigits _) hzero (head?_toDigits hpos)
        (value_toDigits _).symm

end FormScaffold.Text
