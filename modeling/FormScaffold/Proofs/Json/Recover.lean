import FormScaffold.Proofs.Json.Reread

/-!
# Reading back texts, flags, counts and lists

What was written as a text, a flag, a count or a list is read from the value that comes back.
-/

namespace FormScaffold.Json

/-! ## Texts -/

/-- Code units of control characters denote these characters. -/
theorem decodeUnits_reread (c : Char) (units : List StringUnit) :
    decodeUnits none (StringUnit.reread (.char c) :: units) =
      (decodeUnits none units).map (c :: ·) := by
  rw [StringUnit.reread]
  split
  · next h =>
    have hlow : isLowSurrogate c.toNat = false := by
      rw [isLowSurrogate, Bool.and_eq_false_iff, decide_eq_false_iff_not]
      omega
    have hhigh : isHighSurrogate c.toNat = false := by
      rw [isHighSurrogate, Bool.and_eq_false_iff, decide_eq_false_iff_not]
      omega
    rw [decodeUnits.eq_def]
    simp only [hlow, hhigh, Bool.false_eq_true, if_false, Char.ofNat_toNat]
  · rw [decodeUnits]

theorem decode_reread_ofString (s : String) : (RawString.ofString s).reread.decode = .ok s := by
  have hunits : ∀ cs : List Char,
      decodeUnits none ((cs.map StringUnit.char).map StringUnit.reread) = .ok cs := by
    intro cs
    induction cs with
    | nil => rfl
    | cons c cs ih =>
      rw [List.map_cons, List.map_cons, decodeUnits_reread, ih]
      rfl
  rw [RawString.decode, RawString.reread, RawString.ofString, hunits]
  exact congrArg Except.ok String.ofList_toList

theorem readText_reread_ofString (s : String) : (Value.ofString s).reread.readText = .ok s :=
  decode_reread_ofString s

/-! ## Counts -/

theorem digitsValue_toDigits (n : Nat) : digitsValue (Nat.toDigits 10 n) = n := by
  have hofDigits : ∀ (cs : List Char) (m : Nat),
      cs.foldl (fun n c => n * 10 + (c.toNat - 0x30)) m = Nat.ofDigitChars 10 cs m := by
    intro cs m
    rw [Nat.ofDigitChars]
    congr 1
    funext n c
    rw [Nat.mul_comm]
    rfl
  rw [digitsValue, hofDigits, Nat.ofDigitChars_toDigits (by decide) (by decide)]

/-- Counts of at most 64 bits come back. -/
theorem readCount_reread_ofNat {n : Nat} (h : n ≤ Text.word64) :
    (Value.ofNat n).reread.readCount = .ok n := by
  have hkind : Number.kind ⟨false, Nat.toDigits 10 n, [], none⟩ = .ok (.integer false n) := by
    simp [Number.kind, Number.isWhole, digitsValue_toDigits, h]
  have hreread : (Value.ofNat n).reread = .number ⟨false, Nat.toDigits 10 n, [], none⟩ := rfl
  rw [hreread, Value.readCount, hkind]

/-! ## Lists and optional values -/

theorem readItems_reread {α : Type} {read : Value → Except Problem α} {write : α → Value}
    {as : List α} (h : ∀ a ∈ as, read (write a).reread = .ok a) :
    Value.readItems read (rereadItems (as.map write)) = .ok as := by
  induction as with
  | nil => rfl
  | cons a as ih =>
    rw [List.map_cons, rereadItems, Value.readItems, h a List.mem_cons_self,
      ih fun b hb => h b (List.mem_cons_of_mem a hb)]
    rfl

theorem readList_reread {α : Type} {read : Value → Except Problem α} {write : α → Value}
    {as : List α} (h : ∀ a ∈ as, read (write a).reread = .ok a) :
    Value.readList read (Value.list (as.map write) .closed).reread = .ok as := by
  rw [Value.reread, Value.readList, readItems_reread h]
  rfl

theorem readOptional_of_ne_null {α : Type} {read : Value → Except Problem α} {v : Value}
    (hv : v ≠ .null) : Value.readOptional read v = (read v).map some := by
  rw [Value.readOptional]
  exact hv

end FormScaffold.Json
