import Mathlib.Data.List.Forall2
import FormScaffold.Proofs.Result
import FormScaffold.Proofs.Snapshot.Json

/-!
# What members give to a record

A record is read from an object when each member can be read, no key comes twice and the entries
that are found make up the record (`readRecord_object_eq_ok_iff`).  None of this depends on the order
of the members, nor on members that give nothing.
-/

namespace FormScaffold

open Json (Member Problem Value)
open RecordKey (Datum Entry Lawful)

namespace RecordKey

variable {κ : Type} [DecidableEq κ] [RecordKey κ]

theorem ofName?_eq_none_iff [Lawful κ] {s : String} :
    ofName? (κ := κ) s = none ↔ ∀ k : κ, name k ≠ s := by
  rw [ofName?, List.find?_eq_none]
  simp [Lawful.mem_all]

/-- The order of entries does not matter when no key comes twice. -/
theorem find?_perm {entries entries' : List (Entry κ)} (h : entries.NodupKeys)
    (hperm : entries.Perm entries') :
    (fun k => find? k entries) = fun k => find? k entries' := by
  funext k
  rw [find?_eq_dlookup, find?_eq_dlookup, List.perm_dlookup k h hperm]

end RecordKey

/-- What holds of two lists item by item, given what holds of the items of each. -/
theorem forall₂_imp_of_forall {α β : Type} {R S : α → β → Prop} {p : α → Prop} {q : β → Prop}
    {as : List α} {bs : List β} (h : List.Forall₂ R as bs) (ha : ∀ a ∈ as, p a)
    (hb : ∀ b ∈ bs, q b) (himp : ∀ a b, p a → q b → R a b → S a b) : List.Forall₂ S as bs := by
  induction h with
  | nil => exact .nil
  | cons hR _ ih =>
    obtain ⟨hp, has⟩ := List.forall_mem_cons.mp ha
    obtain ⟨hq, hbs⟩ := List.forall_mem_cons.mp hb
    exact .cons (himp _ _ hp hq hR) (ih has hbs)

/-! ## Entries -/

variable {κ ρ : Type} [DecidableEq κ] [RecordKey κ]
  {read : (k : κ) → Value → Except Problem (Datum k)}

/-- What a member gives to a record: an entry, or nothing if its key is not one of the record. -/
def memberEntry (read : (k : κ) → Value → Except Problem (Datum k)) (m : Member) :
    Except Problem (Option (Entry κ)) := do
  let name ← m.1.decode
  match RecordKey.ofName? (κ := κ) name with
  | none =>
    m.2.skip
    return none
  | some k => return some ⟨k, ← read k m.2⟩

/-- The entries that members give. -/
def entriesIn (read : (k : κ) → Value → Except Problem (Datum k)) (members : List Member) :
    List (Entry κ) :=
  members.filterMap fun m => (memberEntry read m).toOption.join

omit [DecidableEq κ] in
theorem memberEntry_eq_none_iff {m : Member} :
    memberEntry read m = .ok none ↔
      ∃ name, m.1.decode = .ok name ∧ RecordKey.ofName? (κ := κ) name = none ∧
        m.2.skip = .ok () := by
  rw [memberEntry, Except.bind_eq_ok_iff]
  refine exists_congr fun name => and_congr_right fun _ => ?_
  cases RecordKey.ofName? (κ := κ) name with
  | none => simp [Except.check_bind_eq_ok_iff, pure, Except.pure]
  | some k => simp [Except.bind_eq_ok_iff, pure, Except.pure]

omit [DecidableEq κ] in
theorem memberEntry_eq_some_iff {m : Member} {k : κ} {d : Datum k} :
    memberEntry read m = .ok (some ⟨k, d⟩) ↔
      ∃ name, m.1.decode = .ok name ∧ RecordKey.ofName? name = some k ∧ read k m.2 = .ok d := by
  rw [memberEntry, Except.bind_eq_ok_iff]
  refine exists_congr fun name => and_congr_right fun _ => ?_
  cases RecordKey.ofName? (κ := κ) name with
  | none => simp [Except.check_bind_eq_ok_iff, pure, Except.pure]
  | some k' =>
    simp only [Except.bind_eq_ok_iff, pure, Except.pure, Except.ok.injEq, Option.some.injEq]
    constructor
    · rintro ⟨d', hd', heq⟩
      cases heq
      exact ⟨rfl, hd'⟩
    · rintro ⟨rfl, hd⟩
      exact ⟨d, hd, rfl⟩

omit [DecidableEq κ] in
/-- Members that give the same one by one give the same entries. -/
theorem entriesIn_congr {members kept : List Member}
    (h : List.Forall₂ (fun m m' => ∀ e, memberEntry read m = .ok e ↔ memberEntry read m' = .ok e)
      members kept) :
    ((∀ m ∈ members, ∃ e, memberEntry read m = .ok e) ↔
      ∀ m ∈ kept, ∃ e, memberEntry read m = .ok e) ∧
      entriesIn read members = entriesIn read kept := by
  induction h with
  | nil => simp
  | @cons m m' members kept hm _ ih =>
    have hoption : (memberEntry read m).toOption = (memberEntry read m').toOption := by
      cases hentry : memberEntry read m with
      | ok e => rw [(hm e).mp hentry]
      | error problem =>
        cases hentry' : memberEntry read m' with
        | ok e => exact absurd ((hm e).mpr hentry') (by simp [hentry])
        | error problem' => rfl
    refine ⟨?_, ?_⟩
    · rw [List.forall_mem_cons, List.forall_mem_cons, ih.1, exists_congr hm]
    · have hrest := ih.2
      simp only [entriesIn, List.filterMap_cons, hoption] at hrest ⊢
      rw [hrest]

omit [DecidableEq κ] in
/-- Members that give nothing can be left out. -/
theorem entriesIn_append_of_none {more : List Member}
    (h : ∀ m ∈ more, memberEntry read m = .ok none) (kept : List Member) :
    entriesIn read (kept ++ more) = entriesIn read kept := by
  have hnone : more.filterMap (fun m => (memberEntry read m).toOption.join) = [] :=
    List.filterMap_eq_nil_iff.mpr fun m hm => by rw [h m hm]; rfl
  rw [entriesIn, List.filterMap_append, hnone, List.append_nil, entriesIn]

/-! ## Reading -/

theorem readMembers_cons_eq_ok_iff {found entries : List (Entry κ)} {m : Member}
    {members : List Member} :
    readMembers read found (m :: members) = .ok entries ↔
      ∃ e, memberEntry read m = .ok e ∧ (∀ e' ∈ e, e'.1 ∉ found.keys) ∧
        readMembers read (e.toList ++ found) members = .ok entries := by
  obtain ⟨key, v⟩ := m
  rw [readMembers, memberEntry]
  cases key.decode with
  | error problem => simp
  | ok name =>
    rw [Except.ok_bind, Except.ok_bind]
    cases RecordKey.ofName? (κ := κ) name with
    | none => simp [Except.check_bind_eq_ok_iff, pure, Except.pure]
    | some k =>
      by_cases hk : k ∈ found.keys
      · have hhas : RecordKey.has k found = true := RecordKey.has_eq_true_iff.mpr hk
        simp [hhas, Except.bind_eq_ok_iff, pure, Except.pure, hk]
      · have hhas : ¬RecordKey.has k found = true := fun h => hk (RecordKey.has_eq_true_iff.mp h)
        simp [hhas, Except.bind_eq_ok_iff, pure, Except.pure, hk]

/-- Members are read when each gives an entry or nothing, and no key comes twice. -/
theorem readMembers_eq_ok_iff {found entries : List (Entry κ)} {members : List Member}
    (hfound : found.NodupKeys) :
    readMembers read found members = .ok entries ↔
      (∀ m ∈ members, ∃ e, memberEntry read m = .ok e) ∧
        ((entriesIn read members).reverse ++ found).NodupKeys ∧
        entries = (entriesIn read members).reverse ++ found := by
  -- The reader puts each entry in front of those that it has found, so they come out backwards.
  induction members generalizing found with
  | nil => simp [readMembers, entriesIn, hfound, eq_comm]
  | cons m members ih =>
    rw [readMembers_cons_eq_ok_iff, List.forall_mem_cons]
    cases hentry : memberEntry read m with
    | error problem => simp
    | ok e =>
      have hentries : entriesIn read (m :: members) = e.toList ++ entriesIn read members := by
        cases e <;> simp [entriesIn, hentry, Except.toOption]
      have hlist : (entriesIn read (m :: members)).reverse ++ found =
          (entriesIn read members).reverse ++ (e.toList ++ found) := by
        cases e <;> simp [hentries]
      have hnew : (∀ e' ∈ e, e'.1 ∉ found.keys) ↔ (e.toList ++ found).NodupKeys := by
        cases e <;> simp [hfound]
      rw [hlist]
      constructor
      · rintro ⟨e', he, hnot, hread⟩
        obtain rfl := Except.ok.inj he
        obtain ⟨hall, hnodup, rfl⟩ := (ih (hnew.mp hnot)).mp hread
        exact ⟨⟨⟨e, rfl⟩, hall⟩, hnodup, rfl⟩
      · rintro ⟨⟨-, hall⟩, hnodup, hread⟩
        have hnot := hnodup.sublist (List.sublist_append_right _ _)
        exact ⟨e, rfl, hnew.mpr hnot, (ih hnot).mpr ⟨hall, hnodup, hread⟩⟩

variable {title : String} {build : ((k : κ) → Option (Datum k)) → Except κ ρ}

theorem readRecord_object_closed (members : List Member) :
    readRecord title read build (.object members .closed) =
      readMembers read [] members >>= fun entries =>
        (build fun k => RecordKey.find? k entries).mapError fun k =>
          .missingKey (RecordKey.name k) := by
  rw [readRecord]
  refine bind_congr fun entries => ?_
  cases build fun k => RecordKey.find? k entries with
  | ok record => rfl
  | error k => rfl

/-- A record is read from an object when it is made up by the entries that the members give. -/
theorem readRecord_object_eq_ok_iff {members : List Member} {record : ρ} :
    readRecord title read build (.object members .closed) = .ok record ↔
      (∀ m ∈ members, ∃ e, memberEntry read m = .ok e) ∧ (entriesIn read members).NodupKeys ∧
        build (fun k => RecordKey.find? k (entriesIn read members)) = .ok record := by
  have hreverse : (entriesIn read members).reverse.NodupKeys ↔ (entriesIn read members).NodupKeys :=
    List.perm_nodupKeys (List.reverse_perm _)
  rw [readRecord_object_closed, Except.bind_eq_ok_iff]
  simp only [readMembers_eq_ok_iff List.nodupKeys_nil, List.append_nil, hreverse,
    Except.mapError_eq_ok_iff]
  constructor
  · rintro ⟨entries, ⟨hall, hnodup, rfl⟩, hbuild⟩
    rw [RecordKey.find?_perm hnodup (List.reverse_perm _).symm]
    exact ⟨hall, hnodup, hbuild⟩
  · rintro ⟨hall, hnodup, hbuild⟩
    rw [RecordKey.find?_perm hnodup (List.reverse_perm _).symm] at hbuild
    exact ⟨_, ⟨hall, hnodup, rfl⟩, hbuild⟩

end FormScaffold
