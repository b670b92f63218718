import Mathlib.Data.List.Lex
import FormScaffold.Text.Order

/-!
# The order of lists and texts

A comparison of items makes a comparison of lists with the same laws, and a list comes first in it
when it comes first in the lexicographic order (`compareLists_eq_lt_iff`).  Texts come in the order
of their lists of characters.
-/

namespace FormScaffold.Text

section Lists

variable {α : Type} {cmp : α → α → Ordering}

theorem compareLists_eq_compareLex (cmp : α → α → Ordering) :
    compareLists cmp = List.compareLex cmp := by
  funext as bs
  induction as, bs using compareLists.induct with
  | case1 => rfl
  | case2 b bs => rfl
  | case3 a as => rfl
  | case4 a as b bs ih => rw [compareLists, List.compareLex_cons_cons, ih]

instance [Std.LawfulEqCmp cmp] : Std.LawfulEqCmp (compareLists cmp) := by
  rw [compareLists_eq_compareLex]
  infer_instance

instance [Std.TransCmp cmp] : Std.TransCmp (compareLists cmp) := by
  rw [compareLists_eq_compareLex]
  infer_instance

/-- A list comes first when its first different item does, or when it ends before the other. -/
theorem compareLists_eq_lt_iff [Std.LawfulEqCmp cmp] {as bs : List α} :
    compareLists cmp as bs = .lt ↔ List.Lex (fun a b => cmp a b = .lt) as bs := by
  induction as, bs using compareLists.induct with
  | case1 => simp [compareLists]
  | case2 b bs => simp [compareLists]
  | case3 a as => simp [compareLists]
  | case4 a as b bs ih =>
    rw [compareLists, Ordering.then_eq_lt, ih, Std.LawfulEqCmp.compare_eq_iff_eq,
      List.cons_lex_cons_iff]

end Lists

/-! ## Characters -/

instance transCmp_toNat : Std.TransCmp fun c d : Char => compare c.toNat d.toNat :=
  inferInstanceAs (Std.TransCmp (compareOn Char.toNat))

instance lawfulEqCmp_toNat : Std.LawfulEqCmp fun c d : Char => compare c.toNat d.toNat where
  compare_self := Std.ReflCmp.compare_self
  eq_of_compare h := Char.toNat_inj.mp (Std.LawfulEqCmp.eq_of_compare h)

instance : Std.TransCmp compareChars := inferInstanceAs (Std.TransCmp (compareLists _))

instance : Std.LawfulEqCmp compareChars := inferInstanceAs (Std.LawfulEqCmp (compareLists _))

theorem compareChars_eq_lt_iff {a b : List Char} : compareChars a b = .lt ↔ a < b := by
  have hchar : (fun c d : Char => compare c.toNat d.toNat = .lt) = fun c d => c < d := by
    funext c d
    rw [Nat.compare_eq_lt]
    rfl
  rw [compareChars, compareLists_eq_lt_iff, hchar]
  rfl

end FormScaffold.Text
