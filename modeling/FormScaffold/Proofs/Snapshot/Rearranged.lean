import FormScaffold.Proofs.Json.Reread
import FormScaffold.Proofs.Snapshot.Members

/-!
# Snapshots that are rearranged

What is read from a snapshot depends on the values under its keys alone: the members of the form and
those of its fields and buttons may come in any order and among others that are not known, whatever
values these have.  A key that comes twice is always an error (`readsAs_iff_of_rearranged`).
-/

namespace FormScaffold

open Json (Member Problem RawString SpacedMember SpacedValue Spells Value)
open RecordKey (Datum Entry Lawful)

/-- Two values from which the same can be read. -/
def ReadAlike {α : Type} (read : Value → Except Problem α) (v v' : Value) : Prop :=
  ∀ a, read v = .ok a ↔ read v' = .ok a

section Records

variable {κ ρ : Type} [RecordKey κ]

/-- A member whose key is not one of a record. -/
def IsForeign (κ : Type) [RecordKey κ] (m : Member) : Prop :=
  ∃ name, m.1.decode = .ok name ∧ ∀ k : κ, RecordKey.name k ≠ name

/-- A member with the same key, which may be spelt in another way.  Its value may vary if the record
knows the key. -/
structure Varied (vary : κ → Value → Value → Prop) (m m' : Member) : Prop where
  key : m'.1.decode = m.1.decode
  value : m'.2 = m.2 ∨ ∃ k, m.1.decode = .ok (RecordKey.name k) ∧ vary k m.2 m'.2

/-- An object whose members come in another order, with values that vary under the keys of a record,
and among others that are foreign to it.  A value that is no object stays as it is. -/
inductive Rearranged (vary : κ → Value → Value → Prop) : Value → Value → Prop
  | same (v : Value) : Rearranged vary v v
  | object {members kept foreign members' : List Member}
    (hkept : List.Forall₂ (Varied vary) members kept) (hforeign : ∀ m ∈ foreign, IsForeign κ m)
    (hperm : members'.Perm (kept ++ foreign)) :
    Rearranged vary (.object members .closed) (.object members' .closed)

/-- An object in which a key of a record comes twice. -/
inductive RepeatsKey (κ : Type) [RecordKey κ] : Value → Prop
  | intro {members : List Member} {m m' : Member} {k : κ} (h : [m, m'].Sublist members)
    (hm : m.1.decode = .ok (RecordKey.name k)) (hm' : m'.1.decode = .ok (RecordKey.name k)) :
    RepeatsKey κ (.object members .closed)

variable [DecidableEq κ] [Lawful κ] {read : (k : κ) → Value → Except Problem (Datum k)}
  {title : String} {build : ((k : κ) → Option (Datum k)) → Except κ ρ}

theorem memberEntry_of_isForeign {m : Member} (h : IsForeign κ m) (hskip : m.2.skip = .ok ()) :
    memberEntry read m = .ok none := by
  obtain ⟨name, hdecode, hname⟩ := h
  exact memberEntry_eq_none_iff.mpr ⟨name, hdecode, RecordKey.ofName?_eq_none_iff.mpr hname, hskip⟩

/-- A member that varies gives the same entry if the same can be read from its value. -/
theorem Varied.memberEntry {vary : κ → Value → Value → Prop} {m m' : Member}
    (h : Varied vary m m') (hvary : ∀ k, vary k m.2 m'.2 → ReadAlike (read k) m.2 m'.2) :
    ∀ e, memberEntry read m = .ok e ↔ FormScaffold.memberEntry read m' = .ok e := by
  rcases h.value with hvalue | ⟨k, hkey, hvaried⟩
  · rw [FormScaffold.memberEntry, FormScaffold.memberEntry, h.key, hvalue]
    exact fun e => Iff.rfl
  · have halike := hvary k hvaried
    intro e
    rw [FormScaffold.memberEntry, FormScaffold.memberEntry, h.key, hkey, Except.ok_bind,
      Except.ok_bind, Lawful.ofName?_name]
    dsimp only
    rw [Except.bind_eq_ok_iff, Except.bind_eq_ok_iff]
    exact exists_congr fun d => and_congr_left fun _ => halike d

/-- A member with a known key gives an entry if it gives anything. -/
theorem exists_entry {m : Member} {k : κ} (hkey : m.1.decode = .ok (RecordKey.name k))
    (h : ∃ e, memberEntry read m = .ok e) : ∃ d, memberEntry read m = .ok (some ⟨k, d⟩) := by
  obtain ⟨e, he⟩ := h
  rw [memberEntry, hkey, Except.ok_bind, Lawful.ofName?_name] at he
  obtain ⟨d, hd, -⟩ := Except.bind_eq_ok_iff.mp he
  exact ⟨d, memberEntry_eq_some_iff.mpr ⟨_, hkey, Lawful.ofName?_name k, hd⟩⟩

/-- The same record is read from an object that is rearranged, if nothing is wrong with the values
that are skipped. -/
theorem Rearranged.readAlike {vary : κ → Value → Value → Prop} {v v' : Value}
    (h : Rearranged vary v v') (hv : v.skip = .ok ()) (hv' : v'.skip = .ok ())
    (hvary : ∀ k w w', vary k w w' → w.skip = .ok () → w'.skip = .ok () →
      ReadAlike (read k) w w') :
    ReadAlike (readRecord title read build) v v' := by
  cases h with
  | same => exact fun record => Iff.rfl
  | @object members kept foreign members' hkept hforeign hperm =>
    intro record
    rw [Json.skip_object_iff] at hv hv'
    have hgives : ∀ m ∈ foreign, memberEntry read m = .ok none := fun m hm =>
      memberEntry_of_isForeign (hforeign m hm)
        (hv' m (hperm.mem_iff.mpr (List.mem_append_right _ hm))).2
    have hsame := forall₂_imp_of_forall hkept (fun m hm => (hv m hm).2)
      (fun m hm => (hv' m (hperm.mem_iff.mpr (List.mem_append_left _ hm))).2)
      fun m m' hm hm' hvaried => hvaried.memberEntry fun k hk => hvary k _ _ hk hm hm'
    -- The kept members give the same entries, the foreign ones none, so only the order may differ.
    obtain ⟨hall, hentries⟩ := entriesIn_congr hsame
    have hentries' : (entriesIn read members).Perm (entriesIn read members') := by
      rw [hentries, ← entriesIn_append_of_none hgives kept]
      exact (hperm.filterMap _).symm
    have hall' : (∀ m ∈ members, ∃ e, memberEntry read m = .ok e) ↔
        ∀ m ∈ members', ∃ e, memberEntry read m = .ok e := by
      rw [hall]
      simp only [hperm.mem_iff, List.forall_mem_append]
      exact (and_iff_left fun m hm => ⟨none, hgives m hm⟩).symm
    rw [readRecord_object_eq_ok_iff, readRecord_object_eq_ok_iff, hall',
      List.perm_nodupKeys hentries']
    refine and_congr_right fun _ => and_congr_right fun hnodup => ?_
    rw [RecordKey.find?_perm hnodup hentries'.symm]

/-- No record is read from an object in which one of its keys comes twice. -/
theorem RepeatsKey.readRecord_ne_ok {v : Value} (h : RepeatsKey κ v) (record : ρ) :
    readRecord title read build v ≠ .ok record := by
  cases h with
  | @intro members m m' k hsublist hm hm' =>
    intro hread
    obtain ⟨hall, hnodup, -⟩ := readRecord_object_eq_ok_iff.mp hread
    obtain ⟨d, hd⟩ := exists_entry hm (hall m (hsublist.subset List.mem_cons_self))
    obtain ⟨d', hd'⟩ := exists_entry hm' (hall m' (hsublist.subset (by simp)))
    have hboth : entriesIn read [m, m'] = [⟨k, d⟩, ⟨k, d'⟩] := by
      simp [entriesIn, hd, hd', Except.toOption]
    have hentries : (entriesIn read [m, m']).NodupKeys := hnodup.sublist (hsublist.filterMap _)
    rw [hboth] at hentries
    simp at hentries

end Records

/-! ## Lists -/

/-- A list whose items vary one by one. -/
inductive ItemsVary (vary : Value → Value → Prop) : Value → Value → Prop
  | list {items items' : List Value} (h : List.Forall₂ vary items items') :
    ItemsVary vary (.list items .closed) (.list items' .closed)

section Lists

variable {α : Type} {read : Value → Except Problem α}

theorem readList_closed_eq_ok_iff {items : List Value} {as : List α} :
    Value.readList read (.list items .closed) = .ok as ↔ Value.readItems read items = .ok as := by
  rw [Value.readList, Except.bind_eq_ok_iff]
  simp [Json.orElseOk, Json.Ending.listProblem?, pure, Except.pure]

theorem readItems_alike {items items' : List Value} (h : List.Forall₂ (ReadAlike read) items items')
    (as : List α) : Value.readItems read items = .ok as ↔ Value.readItems read items' = .ok as := by
  induction h generalizing as with
  | nil => exact Iff.rfl
  | cons hread _ ih =>
    simp only [Value.readItems, Except.bind_eq_ok_iff]
    exact exists_congr fun a => and_congr (hread a) (exists_congr fun rest =>
      and_congr_left fun _ => ih rest)

theorem ItemsVary.readAlike {vary : Value → Value → Prop} {v v' : Value} (h : ItemsVary vary v v')
    (hv : v.skip = .ok ()) (hv' : v'.skip = .ok ())
    (hvary : ∀ w w', vary w w' → w.skip = .ok () → w'.skip = .ok () → ReadAlike read w w') :
    ReadAlike (Value.readList read) v v' := by
  cases h with
  | list h =>
    intro as
    rw [readList_closed_eq_ok_iff, readList_closed_eq_ok_iff]
    exact readItems_alike (forall₂_imp_of_forall h (Json.skip_list_iff.mp hv)
      (Json.skip_list_iff.mp hv') fun w w' hw hw' hvaried => hvary w w' hvaried hw hw') as

/-- Every item of a list that is read has been read. -/
theorem exists_read_of_readItems {items : List Value} {as : List α}
    (h : Value.readItems read items = .ok as) : ∀ v ∈ items, ∃ a, read v = .ok a := by
  induction items generalizing as with
  | nil => simp
  | cons v items ih =>
    rw [Value.readItems] at h
    obtain ⟨a, ha, h⟩ := Except.bind_eq_ok_iff.mp h
    obtain ⟨rest, hrest, -⟩ := Except.bind_eq_ok_iff.mp h
    exact List.forall_mem_cons.mpr ⟨⟨a, ha⟩, ih hrest⟩

end Lists

/-! ## Snapshots -/

namespace Snapshot

/-- The values of a form that may vary: its fields and buttons are rearranged one by one. -/
def Varies : FormKey → Value → Value → Prop
  | .inputFields => ItemsVary (Rearranged fun (_ : FieldKey) _ _ => False)
  | .buttons => ItemsVary (Rearranged fun (_ : ButtonKey) _ _ => False)
  | _ => fun _ _ => False

theorem Field.readAlike_ofJson {v v' : Value} (h : Rearranged (fun (_ : FieldKey) _ _ => False) v v')
    (hv : v.skip = .ok ()) (hv' : v'.skip = .ok ()) : ReadAlike Field.ofJson v v' :=
  h.readAlike hv hv' fun _ _ _ hfalse => hfalse.elim

theorem Button.readAlike_ofJson {v v' : Value}
    (h : Rearranged (fun (_ : ButtonKey) _ _ => False) v v') (hv : v.skip = .ok ())
    (hv' : v'.skip = .ok ()) : ReadAlike Button.ofJson v v' :=
  h.readAlike hv hv' fun _ _ _ hfalse => hfalse.elim

/-- The same snapshot is read from a value that is rearranged. -/
theorem readAlike_ofJson {v v' : Value} (h : Rearranged Varies v v') (hv : v.skip = .ok ())
    (hv' : v'.skip = .ok ()) : ReadAlike ofJson v v' := by
  refine h.readAlike hv hv' fun k w w' hvaries hw hw' => ?_
  cases k with
  | inputFields => exact hvaries.readAlike hw hw' fun _ _ => Field.readAlike_ofJson
  | buttons => exact hvaries.readAlike hw hw' fun _ _ => Button.readAlike_ofJson
  | _ => exact hvaries.elim

/-- A known key comes twice, in the form itself or in one of its fields or buttons. -/
inductive HasRepeatedKey : Value → Prop
  | form {v : Value} (h : RepeatsKey FormKey v) : HasRepeatedKey v
  | field {members : List Member} {m : Member} {items : List Value} {item : Value}
    (hm : m ∈ members) (hkey : m.1.decode = .ok "inputFields") (hitems : m.2 = .list items .closed)
    (hitem : item ∈ items) (h : RepeatsKey FieldKey item) :
    HasRepeatedKey (.object members .closed)
  | button {members : List Member} {m : Member} {items : List Value} {item : Value}
    (hm : m ∈ members) (hkey : m.1.decode = .ok "buttons") (hitems : m.2 = .list items .closed)
    (hitem : item ∈ items) (h : RepeatsKey ButtonKey item) :
    HasRepeatedKey (.object members .closed)

/-- What a snapshot is read from has been read under each of its keys. -/
theorem exists_read_of_ofJson {members : List Member} {snapshot : Snapshot}
    (h : ofJson (.object members .closed) = .ok snapshot) {m : Member} (hm : m ∈ members)
    {k : FormKey} (hkey : m.1.decode = .ok k.name) : ∃ d, k.kind.ofJson m.2 = .ok d := by
  obtain ⟨hall, -⟩ := readRecord_object_eq_ok_iff.mp h
  obtain ⟨d, hd⟩ := exists_entry hkey (hall m hm)
  obtain ⟨name, hname, hfind, hread⟩ := memberEntry_eq_some_iff.mp hd
  exact ⟨d, hread⟩

theorem HasRepeatedKey.ofJson_ne_ok {v : Value} (h : HasRepeatedKey v) (snapshot : Snapshot) :
    ofJson v ≠ .ok snapshot := by
  intro hread
  cases h with
  | form h => exact h.readRecord_ne_ok snapshot hread
  | @field _ m items item hm hkey hitems hitem h =>
    obtain ⟨fields, hfields⟩ := exists_read_of_ofJson (k := .inputFields) hread hm hkey
    rw [hitems] at hfields
    obtain ⟨field, hfield⟩ :=
      exists_read_of_readItems (readList_closed_eq_ok_iff.mp hfields) item hitem
    exact h.readRecord_ne_ok field hfield
  | @button _ m items item hm hkey hitems hitem h =>
    obtain ⟨buttons, hbuttons⟩ := exists_read_of_ofJson (k := .buttons) hread hm hkey
    rw [hitems] at hbuttons
    obtain ⟨button, hbutton⟩ :=
      exists_read_of_readItems (readList_closed_eq_ok_iff.mp hbuttons) item hitem
    exact h.readRecord_ne_ok button hbutton

/-! ## Texts -/

theorem ofText_eq_ok_iff {text : String} {v : Value} (h : Spells text v) {snapshot : Snapshot} :
    ofText text = .ok snapshot ↔ ofJson v = .ok snapshot := by
  rw [ofText, Json.Document.ofText_of_spells h, Json.Document.read, Except.bind_eq_ok_iff]
  simp [pure, Except.pure]

/-- A text is read as a form. -/
def ReadsAs (text : String) (form : Form) : Prop :=
  ∃ snapshot, ofText text = .ok snapshot ∧ snapshot.toForm = .ok form

/-- Texts that spell a snapshot and the same one rearranged are read as the same forms, and a text in
which a known key comes twice is not read. -/
theorem readsAs_iff_of_rearranged :
    (∀ (text text' : String) (v v' : Value), Spells text v → Spells text' v' →
      Rearranged Varies v v' → ∀ form, ReadsAs text form ↔ ReadsAs text' form) ∧
    ∀ (text : String) (v : Value), Spells text v → HasRepeatedKey v →
      ∃ problem, ofText text = .error problem := by
  constructor
  · intro text text' v v' h h' hrearranged form
    refine exists_congr fun snapshot => and_congr_left fun _ => ?_
    rw [ofText_eq_ok_iff h, ofText_eq_ok_iff h']
    exact readAlike_ofJson hrearranged h.skip h'.skip snapshot
  · intro text v h hrepeats
    cases hread : ofText text with
    | error problem => exact ⟨problem, rfl⟩
    | ok snapshot => exact absurd ((ofText_eq_ok_iff h).mp hread) (hrepeats.ofJson_ne_ok snapshot)

/-- A snapshot of a form with one field. -/
def brief : Value :=
  object
    [ ("formName", .ofString "contact"),
      ("submitButtonIndex", .ofNat 0),
      ("inputFields", list [object [("name", .ofString "email")]]) ]

/-- The members of `brief` backwards, with an escape in the last key and foreign members behind them
and in the field. -/
def shuffled : List SpacedMember :=
  [ Member.onLine 1
      ("inputFields", list [object [("seen", list [object []]), ("name", .ofString "email")]]),
    Member.onLine 1 ("submitButtonIndex", .ofNat 0),
    { Member.onLine 1 ("formName", .ofString "contact") with
      key := ⟨.code 0x66 :: "ormName".toList.map .char, none⟩
      keySpelling := "\x22\\u0066ormName\x22".toList },
    Member.onLine 1 ("seen", list [.null, object []]) ]

def shuffledText : String :=
  String.ofList ('\x7b' :: ([','].intercalate (shuffled.map (·.chars)) ++ ['\x7d']))

/-- A snapshot with two names. -/
def twice : Value :=
  object
    [("formName", .ofString "contact"), ("submitButtonIndex", .ofNat 0), ("formName", .null)]

theorem spells_brief : Spells brief.toText brief := by
  have hfield : (object [("name", .ofString "email")]).Written :=
    .object (by simp [Value.Written.ofString])
  have hfields : (list [object [("name", .ofString "email")]]).Written :=
    .list (by simpa using hfield)
  have h : brief.Written :=
    .object (by simp [Value.Written.ofString, Value.Written.ofNat, hfields])
  exact h.spells

theorem spells_twice : Spells twice.toText twice := by
  have h : twice.Written :=
    .object (by simp [Value.Written.ofString, Value.Written.ofNat, Value.Written.null])
  exact h.spells

theorem spells_shuffled : Spells shuffledText (.object (shuffled.map (·.pair)) .closed) := by
  have hempty : (object []).Written := .object (by simp)
  have hseen : (list [object []]).Written := .list (by simpa using hempty)
  have hfield : (object [("seen", list [object []]), ("name", .ofString "email")]).Written :=
    .object (by simp [Value.Written.ofString, hseen])
  have hfields : (list [object [("seen", list [object []]), ("name", .ofString "email")]]).Written :=
    .list (by simpa using hfield)
  have hforeign : (list [.null, object []]).Written := .list (by simp [hempty, Value.Written.null])
  have hname := Member.spaced_onLine 1 ("formName", .ofString "contact")
  have hescaped : RawString.Spelled ⟨.code 0x66 :: "ormName".toList.map .char, none⟩
      "\x22\\u0066ormName\x22".toList :=
    .quoted (.cons (.code rfl) (Json.unitsSpelled_render "ormName".toList))
  refine ⟨⟨[], _, _, []⟩, rfl, ⟨Json.spaces_nil, Json.spaces_nil⟩,
    .object Json.spaces_nil ?_ ?_, ?_⟩
  · simp only [shuffled, List.forall_mem_cons]
    exact ⟨Member.spaced_onLine 1 _, Member.spaced_onLine 1 _,
      ⟨hname.before, hname.between, hescaped, hname.item⟩, Member.spaced_onLine 1 _, by simp⟩
  · simp only [shuffled, List.forall_mem_cons]
    exact ⟨hfields.spelled 1, (Value.Written.ofNat 0).spelled 1,
      (Value.Written.ofString "contact").spelled 1, hforeign.spelled 1, by simp⟩
  · rw [shuffledText, String.toList_ofList]
    simp [SpacedValue.chars]

theorem rearranged_shuffled :
    Rearranged Varies brief (.object (shuffled.map (·.pair)) .closed) := by
  have hsame {κ : Type} [RecordKey κ] {vary : κ → Value → Value → Prop} (m : Member) :
      Varied vary m m := ⟨rfl, .inl rfl⟩
  have hfield : Rearranged (fun (_ : FieldKey) _ _ => False)
      (object [("name", .ofString "email")])
      (object [("seen", list [object []]), ("name", .ofString "email")]) := by
    refine @Rearranged.object _ _ _ _ _ [(.ofString "seen", list [object []])] _
      (List.forall₂_same.mpr fun m _ => hsame m) (fun m hm => ?_)
      (@List.perm_append_comm _ [_] [_])
    rw [List.mem_singleton.mp hm]
    exact ⟨"seen", rfl, RecordKey.ofName?_eq_none_iff.mp (by decide)⟩
  have hperm (members : List Member) :
      members.Perm ((members.take 3).reverse ++ members.drop 3) := by
    conv_lhs => rw [← List.take_append_drop 3 members]
    exact (List.reverse_perm _).symm.append_right _
  refine @Rearranged.object _ _ _ _ (shuffled.map (·.pair) |>.take 3).reverse
    (shuffled.map (·.pair) |>.drop 3) _
    (.cons ⟨rfl, .inl rfl⟩ (.cons (hsame _) (.cons ⟨rfl, .inr ⟨.inputFields, rfl, ?_⟩⟩ .nil)))
    (fun m hm => ?_) (hperm (shuffled.map (·.pair)))
  · exact .list (.cons hfield .nil)
  · rw [List.mem_singleton.mp hm]
    exact ⟨"seen", rfl, RecordKey.ofName?_eq_none_iff.mp (by decide)⟩

/-- A form is read from both texts, and none from the one with two names. -/
theorem readsAs_iff_of_rearranged_shuffled :
    (∃ form, ReadsAs brief.toText form ∧ ReadsAs shuffledText form) ∧
      ∃ problem, ofText twice.toText = .error problem := by
  obtain ⟨hsame, hrepeated⟩ := readsAs_iff_of_rearranged
  constructor
  · obtain ⟨form, hform⟩ : ∃ form, ReadsAs brief.toText form :=
      ⟨_, _, (ofText_eq_ok_iff spells_brief).mpr rfl, rfl⟩
    exact ⟨form, hform,
      (hsame _ _ _ _ spells_brief spells_shuffled rearranged_shuffled form).mp hform⟩
  · have hrepeats : RepeatsKey FormKey twice :=
      @RepeatsKey.intro _ _ _ (.ofString "formName", .ofString "contact")
        (.ofString "formName", .null) .formName (.cons_cons _ (.cons _ (.refl _))) rfl rfl
    exact hrepeated _ _ spells_twice (.form hrepeats)

end Snapshot

end FormScaffold
