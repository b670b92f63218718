import Mathlib.Data.List.Sigma
import FormScaffold.Proofs.Json.Recover
import FormScaffold.Snapshot.Json

/-!
# Records under named keys

A record that is written as an object, some values under its keys, is read back from these values
(`readRecord_reread`): every member is recognised by its name, and no key comes twice.
-/

namespace FormScaffold

open Json (Problem Value)

namespace RecordKey

/-- Every key is listed once and found by its name. -/
class Lawful (κ : Type) [DecidableEq κ] [RecordKey κ] : Prop where
  nodup_all : (all (κ := κ)).Nodup
  mem_all (k : κ) : k ∈ all (κ := κ)
  ofName?_name (k : κ) : ofName? (name k) = some k

variable {κ : Type} [DecidableEq κ] [RecordKey κ]

/-! ## Entries -/

theorem find?_eq_dlookup (k : κ) (entries : List (Entry κ)) :
    find? k entries = entries.dlookup k := by
  induction entries with
  | nil => rfl
  | cons e entries ih =>
    obtain ⟨k', d⟩ := e
    by_cases h : k' = k
    · subst h
      rw [find?, dif_pos rfl, List.dlookup_cons_eq]
    · rw [find?, dif_neg h, ih, List.dlookup_cons_ne _ _ (Ne.symm h)]

theorem has_eq_true_iff {k : κ} {entries : List (Entry κ)} :
    has k entries = true ↔ k ∈ entries.keys := by
  simp [has, List.keys]

/-- The entries of the keys that have a value, in the order of the keys. -/
def entriesOf (get : (k : κ) → Option (Datum k)) : List (Entry κ) :=
  (all (κ := κ)).flatMap fun k => ((get k).map (Sigma.mk k)).toList

variable {get : (k : κ) → Option (Datum k)}

theorem mem_entriesOf [Lawful κ] {k : κ} {d : Datum k} :
    (⟨k, d⟩ : Entry κ) ∈ entriesOf get ↔ get k = some d := by
  rw [entriesOf, List.mem_flatMap]
  constructor
  · rintro ⟨k', -, h⟩
    obtain ⟨d', hd', heq⟩ := Option.map_eq_some_iff.mp (Option.mem_toList.mp h)
    cases heq
    exact hd'
  · intro h
    refine ⟨k, Lawful.mem_all k, ?_⟩
    rw [h, Option.map_some, Option.mem_toList]

theorem nodupKeys_entriesOf [Lawful κ] : (entriesOf get).NodupKeys := by
  have hsub : ∀ ks : List κ,
      (ks.flatMap fun k => ((get k).map (Sigma.mk k)).toList).keys.Sublist ks := by
    intro ks
    induction ks with
    | nil => exact List.Sublist.refl []
    | cons k ks ih =>
      rw [List.flatMap_cons, List.keys, List.map_append]
      cases get k with
      | none => exact ih.cons k
      | some d => exact ih.cons_cons k
  exact (Lawful.nodup_all (κ := κ)).sublist (hsub _)

theorem nodupKeys_reverse_entriesOf [Lawful κ] : (entriesOf get).reverse.NodupKeys :=
  (List.perm_nodupKeys (List.reverse_perm _)).mpr nodupKeys_entriesOf

/-- Every key is found with its value, also when the entries come backwards. -/
theorem find?_entriesOf [Lawful κ] (k : κ) : find? k (entriesOf get).reverse = get k := by
  rw [find?_eq_dlookup]
  refine Option.ext fun d => ?_
  rw [← Option.mem_def, List.mem_dlookup_iff nodupKeys_reverse_entriesOf, List.mem_reverse,
    mem_entriesOf]

end RecordKey

/-! ## Reading what was written -/

section Records

open RecordKey (Datum Entry Lawful entriesOf)

variable {κ ρ : Type} [DecidableEq κ] [RecordKey κ]
  {read : (k : κ) → Value → Except Problem (Datum k)} {write : (k : κ) → Datum k → Value}

/-- The members that are written for entries. -/
def writtenMembers (write : (k : κ) → Datum k → Value) (entries : List (Entry κ)) :
    List (String × Value) :=
  entries.map fun e => (RecordKey.name e.1, write e.1 e.2)

omit [DecidableEq κ] in
/-- A key without a value is left out. -/
theorem writtenMembers_entriesOf (get : (k : κ) → Option (Datum k)) :
    writtenMembers write (entriesOf get) =
      (RecordKey.all (κ := κ)).flatMap fun k =>
        Snapshot.ifPresent (RecordKey.name k) (write k) (get k) := by
  rw [writtenMembers, entriesOf, List.map_flatMap]
  refine List.flatMap_congr fun k _ => ?_
  cases get k <;> rfl

theorem readMembers_reread [Lawful κ] {entries found : List (Entry κ)}
    (hread : ∀ e ∈ entries, read e.1 (write e.1 e.2).reread = .ok e.2)
    (hnodup : (entries.reverse ++ found).NodupKeys) :
    readMembers read found (Json.rereadMembers
        ((writtenMembers write entries).map fun (key, v) => (.ofString key, v))) =
      .ok (entries.reverse ++ found) := by
  induction entries generalizing found with
  | nil => rfl
  | cons e entries ih =>
    rw [List.reverse_cons, List.append_assoc, List.singleton_append] at hnodup ⊢
    have hnew : RecordKey.has e.1 found = false := by
      rw [Bool.eq_false_iff, Ne, RecordKey.has_eq_true_iff]
      have hsuffix : (e :: found).NodupKeys := hnodup.sublist (List.sublist_append_right _ _)
      exact List.notMem_keys_of_nodupKeys_cons hsuffix
    have hrest := ih (fun e' he' => hread e' (List.mem_cons_of_mem e he')) hnodup
    rw [writtenMembers, List.map_cons, List.map_cons, Json.rereadMembers, readMembers,
      Json.decode_reread_ofString]
    dsimp only [bind, Except.bind]
    rw [Lawful.ofName?_name]
    dsimp only
    rw [hnew, hread e List.mem_cons_self]
    exact hrest

/-- A record is built from the values that were written. -/
theorem readRecord_reread [Lawful κ] {title : String}
    {build : ((k : κ) → Option (Datum k)) → Except κ ρ} {get : (k : κ) → Option (Datum k)}
    {record : ρ} (hread : ∀ k d, get k = some d → read k (write k d).reread = .ok d)
    (hbuild : build get = .ok record) :
    readRecord title read build
        (Snapshot.object (writtenMembers write (entriesOf get))).reread = .ok record := by
  have hnodup : ((entriesOf get).reverse ++ []).NodupKeys := by
    rw [List.append_nil]
    exact RecordKey.nodupKeys_reverse_entriesOf
  have hmembers := readMembers_reread
    (fun e he => hread e.1 e.2 (RecordKey.mem_entriesOf.mp he)) hnodup
  have hfind : (fun k => RecordKey.find? k (entriesOf get).reverse) = get :=
    funext RecordKey.find?_entriesOf
  rw [Snapshot.object, Value.reread, readRecord, hmembers, List.append_nil]
  dsimp only [bind, Except.bind, Json.Ending.objectProblem?, Json.orElseOk]
  rw [hfind, hbuild]

end Records

end FormScaffold
