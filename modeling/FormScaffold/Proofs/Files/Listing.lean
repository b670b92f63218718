import Mathlib.Data.List.Nodup
import FormScaffold.Proofs.Files.Directories

/-!
# What stands in a directory

In a well-formed tree every location has one entry, with a name that a path can hold, in a
directory.  So a directory lists the names of what stands one step below it
(`WellFormed.mem_children_iff`), each once, and a path goes on with the names of directories as long
as it fits (`WellFormed.leadsTo_append`).
-/

namespace FormScaffold

open FormScaffold.Path (IsName weight)

namespace Path

/-! ## Paths below a directory -/

/-- The path that names lead to from a directory. -/
def below (directory : Path) (names : List String) : Path :=
  names.foldl (fun path name => path.join ⟨[name]⟩) directory

@[simp] theorem below_nil (directory : Path) : directory.below [] = directory := rfl

theorem below_cons (directory : Path) (s : String) (names : List String) :
    directory.below (s :: names) = (directory.join ⟨[s]⟩).below names := rfl

theorem below_append (directory : Path) (front names : List String) :
    directory.below (front ++ names) = (directory.below front).below names :=
  List.foldl_append

theorem below_eq {names : List String} (hnames : ∀ s ∈ names, IsName s) (hne : names ≠ [])
    (directory : Path) : directory.below names = ⟨directory.base ++ names⟩ :=
  foldl_join hnames hne directory

theorem below_concat {names : List String} (hnames : ∀ s ∈ names, IsName s) {name : String}
    (hname : IsName name) (directory : Path) :
    directory.below (names ++ [name]) = ⟨directory.base ++ names ++ [name]⟩ := by
  have hall : ∀ s ∈ names ++ [name], IsName s := by
    simpa [or_imp, forall_and] using ⟨hnames, hname⟩
  rw [below_eq hall (by simp), List.append_assoc]

theorem join_singleton {name : String} (hname : IsName name) (directory : Path) :
    directory.join ⟨[name]⟩ = ⟨directory.base ++ [name]⟩ := by
  rw [← below_eq (by simpa using hname) (by simp)]
  rfl

theorem base_concat {name : String} (hname : IsName name) (front : List String) :
    base ⟨front ++ [name]⟩ = front ++ [name] := by
  simp [base, dropSlash, hname.ne_empty]

theorem base_below {names : List String} (hnames : ∀ s ∈ names, IsName s) (directory : Path) :
    (directory.below names).base = directory.base ++ names := by
  rcases List.eq_nil_or_concat names with rfl | ⟨front, name, rfl⟩
  · simp
  · rw [List.concat_eq_append] at hnames ⊢
    have hname : IsName name := hnames name (by simp)
    rw [below_eq hnames (by simp), ← List.append_assoc, base_concat hname]

/-- The segments of a path are those of its base, and an empty one if it ends in a slash. -/
theorem segments_eq_base (path : Path) :
    path.segments = path.base ∨ path.segments = path.base ++ [""] := by
  rw [base, dropSlash]
  split
  · next hlast =>
    obtain ⟨front, hfront⟩ := List.getLast?_eq_some_iff.mp hlast
    exact .inr (by rw [hfront, List.dropLast_concat])
  · exact .inl rfl

/-- What is below a directory has a longer path than the directory, which may end in a slash. -/
theorem Fits.of_append {path : Path} {s : String} {rest : List String}
    (h : (⟨path.base ++ s :: rest⟩ : Path).Fits) : path.Fits := by
  obtain ⟨hzero, hweight⟩ := h
  simp only [weight_append, weight_cons] at hweight
  rcases segments_eq_base path with hbase | hbase
  · refine ⟨fun t ht => hzero t (List.mem_append_left _ (hbase ▸ ht)), ?_⟩
    rw [hbase]
    omega
  · refine ⟨fun t ht => ?_, ?_⟩
    · rw [hbase, List.mem_append, List.mem_singleton] at ht
      rcases ht with ht | rfl
      · exact hzero t (List.mem_append_left _ ht)
      · exact List.not_mem_nil
    · rw [hbase, weight_append, weight_cons, weight_nil]
      simp only [String.utf8ByteSize_empty]
      omega

/-- A directory has no longer path than what is below it. -/
theorem Fits.of_below {path : Path} {names : List String} (hnames : ∀ s ∈ names, IsName s)
    (h : (path.below names).Fits) : path.Fits := by
  cases names with
  | nil => exact h
  | cons s rest =>
    rw [below_eq hnames (List.cons_ne_nil _ _)] at h
    exact h.of_append

theorem isEmpty_concat {name : String} (hname : IsName name) (front : List String) :
    (⟨front ++ [name]⟩ : Path).isEmpty = false := by
  cases front <;> simp [isEmpty, hname.ne_empty]

theorem isEmpty_below {names : List String} (hnames : ∀ s ∈ names, IsName s) (hne : names ≠ [])
    (directory : Path) : (directory.below names).isEmpty = false := by
  rw [below_eq hnames hne, ← List.dropLast_append_getLast hne, ← List.append_assoc]
  exact isEmpty_concat (hnames _ (List.getLast_mem hne)) _

theorem isAbsolute_iff {path : Path} (h : path.isEmpty = false) :
    path.isAbsolute = true ↔ path.segments.head? = some "" := by
  obtain ⟨segments⟩ := path
  rcases segments with _ | ⟨first, _ | ⟨second, rest⟩⟩
  · simp [isEmpty] at h
  · by_cases hfirst : first = "" <;> simp_all [isEmpty, isAbsolute]
  · by_cases hfirst : first = "" <;> simp [isAbsolute, hfirst]

end Path

namespace FileTree

variable {tree : FileTree} {location : List String}

/-! ## Listing -/

theorem list_eq_ok_iff {path : Path} {listed : List (String × FileKind)} :
    tree.list path = .ok listed ↔
      ∃ location, tree.locate path = .ok location ∧ tree.get? location = some .directory ∧
        listed = (tree.children location).map fun (name, entry) => (name, entry.kind) := by
  rw [list, Except.bind_eq_ok_iff]
  refine exists_congr fun location => and_congr_right fun _ => ?_
  cases h : tree.get? location with
  | none => simp
  | some entry => cases entry <;> simp [pure, Except.pure, eq_comm]

theorem get?_of_ne_nil (hne : location ≠ []) :
    tree.get? location = tree.entries.lookup location :=
  if_neg (by simpa using hne)

theorem mem_entries_of_get? {entry : FileEntry} (hne : location ≠ [])
    (h : tree.get? location = some entry) : (location, entry) ∈ tree.entries := by
  rw [get?_of_ne_nil hne, List.lookup_eq_some_iff] at h
  obtain ⟨front, back, hentries, -⟩ := h
  exact hentries ▸ List.mem_append_right front List.mem_cons_self

theorem mem_children {name : String} {entry : FileEntry} :
    (name, entry) ∈ tree.children location ↔ (location ++ [name], entry) ∈ tree.entries := by
  rw [children, List.mem_filterMap]
  constructor
  · rintro ⟨⟨place, other⟩, hmem, hchild⟩
    dsimp only at hchild
    split at hchild
    · next last hlast =>
      obtain ⟨front, rfl⟩ := List.getLast?_eq_some_iff.mp hlast
      rw [List.dropLast_concat] at hchild
      split at hchild
      · next hfront =>
        obtain ⟨rfl, rfl⟩ := Prod.mk.inj (Option.some.inj hchild)
        rwa [← hfront]
      · exact absurd hchild (by simp)
    · exact absurd hchild (by simp)
  · intro hmem
    exact ⟨_, hmem, by simp⟩

theorem mem_children_of_get? {name : String} {entry : FileEntry}
    (h : tree.get? (location ++ [name]) = some entry) : (name, entry) ∈ tree.children location :=
  mem_children.mpr (mem_entries_of_get? (by simp) h)

theorem start_eq (tree : FileTree) {path : Path} (h : path.isEmpty = false) :
    tree.start path = if path.segments.head? = some "" then [] else tree.current :=
  if_congr (Path.isAbsolute_iff h) rfl rfl

/-- A path leads to a directory when its segments do. -/
theorem LeadsTo.locate {path : Path} (h : tree.LeadsTo path.segments location)
    (hempty : path.isEmpty = false) (hfits : path.Fits) : tree.locate path = .ok location :=
  locate_eq_ok_iff.mpr ⟨hempty, hfits, start_eq tree hempty ▸ h.1⟩

/-- The path of a directory leads to it, whether it ends in a slash or not. -/
theorem leadsTo_base {path : Path} (hlocate : tree.locate path = .ok location)
    (hdirectory : tree.get? location = some .directory) : tree.LeadsTo path.base location := by
  obtain ⟨hempty, -, hfollow⟩ := locate_eq_ok_iff.mp hlocate
  refine ⟨?_, hdirectory⟩
  rw [start_eq tree hempty] at hfollow
  rcases Path.segments_eq_base path with hbase | hbase
  · rwa [hbase] at hfollow
  · have hne : path.base ≠ [] := by
      intro hnil
      rw [hnil, List.nil_append] at hbase
      simp [Path.isEmpty, hbase] at hempty
    have hhead : path.segments.head? = path.base.head? := by
      rw [hbase, List.head?_append_of_ne_nil _ hne]
    rw [hhead, hbase, follow_append_eq_ok_iff] at hfollow
    obtain ⟨middle, hmiddle, hlast⟩ := hfollow
    obtain ⟨next, hstep, hnext⟩ := follow_cons_eq_ok_iff.mp hlast
    rw [step_of_isIdle (by decide) (directory_of_step hstep)] at hstep
    obtain rfl := Except.ok.inj hstep
    obtain rfl := Except.ok.inj hnext
    exact hmiddle

/-- Segments that lead to a directory lead on with the name of a directory in it. -/
theorem LeadsTo.concat {base : List String} (h : tree.LeadsTo base location) {name : String}
    (hname : IsName name) (hsize : name.utf8ByteSize ≤ nameLimit)
    (hdirectory : tree.get? (location ++ [name]) = some .directory) :
    tree.LeadsTo (base ++ [name]) (location ++ [name]) := by
  obtain ⟨hfollow, hplace⟩ := h
  have hhead : (base ++ [name]).head? = some "" ↔ base.head? = some "" := by
    cases base with
    | nil => simp [hname.ne_empty]
    | cons s rest => rfl
  refine ⟨?_, hdirectory⟩
  rw [if_congr hhead rfl rfl, follow_append_eq_ok_iff]
  exact ⟨location, hfollow, follow_cons_eq_ok_iff.mpr
    ⟨_, (step_name_eq_ok_iff hname).mpr ⟨hplace, hsize, rfl⟩, rfl⟩⟩

end FileTree

/-! ## Well-formed trees -/

/-- A name under which something can stand in a directory. -/
structure Path.IsLegal (name : String) : Prop where
  isName : IsName name
  zero : '\x00' ∉ name.toList
  size : name.utf8ByteSize ≤ FileTree.nameLimit

namespace Path

instance (name : String) : Decidable (IsLegal name) :=
  decidable_of_iff ((isIdle name = false ∧ name ≠ "..") ∧ '\x00' ∉ name.toList ∧
      name.utf8ByteSize ≤ FileTree.nameLimit)
    ⟨fun ⟨hname, hzero, hsize⟩ => ⟨hname, hzero, hsize⟩, fun h => ⟨h.isName, h.zero, h.size⟩⟩

theorem weight_le_of_legal {names : List String} (h : ∀ s ∈ names, IsLegal s) :
    weight names ≤ names.length * (FileTree.nameLimit + 1) := by
  induction names with
  | nil => exact Nat.zero_le _
  | cons s rest ih =>
    have hsize := (h s List.mem_cons_self).size
    have hrest := ih fun t ht => h t (List.mem_cons_of_mem s ht)
    rw [weight_cons, List.length_cons, Nat.succ_mul]
    omega

/-- A path that has room for some legal names can go on with them. -/
theorem Fits.append_legal {path : Path} (h : path.Fits) (hempty : path.isEmpty = false)
    {names : List String} (hnames : ∀ s ∈ names, IsLegal s)
    (hroom : path.text.utf8ByteSize + 1 + names.length * (FileTree.nameLimit + 1) ≤
      FileTree.pathLimit) : (⟨path.base ++ names⟩ : Path).Fits := by
  have hne : path.segments ≠ [] := by
    intro hnil
    simp [isEmpty, hnil] at hempty
  have hsize : path.text.utf8ByteSize + 1 = weight path.segments := utf8ByteSize_intercalate hne
  have hbase : weight path.base ≤ weight path.segments := by
    rcases segments_eq_base path with heq | heq <;> simp [heq]
  have hlegal := weight_le_of_legal hnames
  refine ⟨fun s hs => ?_, ?_⟩
  · rcases List.mem_append.mp hs with hs | hs
    · rcases segments_eq_base path with heq | heq
      · exact h.1 s (heq ▸ hs)
      · exact h.1 s (heq ▸ List.mem_append_left _ hs)
    · exact (hnames s hs).zero
  · rw [weight_append]
    omega

end Path

/-- Every location has one entry, and it is in a directory. -/
structure FileTree.WellFormed (tree : FileTree) : Prop where
  nodup : (tree.entries.map Prod.fst).Nodup
  placed : ∀ {location : List String} {entry : FileEntry}, (location, entry) ∈ tree.entries →
    ∃ directory name, location = directory ++ [name] ∧ Path.IsLegal name ∧
      tree.get? directory = some .directory

namespace FileTree.WellFormed

variable {tree : FileTree} {location : List String} {entry : FileEntry}

theorem get?_of_mem (h : tree.WellFormed) (hmem : (location, entry) ∈ tree.entries) :
    tree.get? location = some entry := by
  obtain ⟨directory, name, hlocation, -⟩ := h.placed hmem
  have hne : location ≠ [] := by simp [hlocation]
  rw [get?_of_ne_nil hne, List.lookup_eq_some_iff]
  obtain ⟨front, back, hentries⟩ := List.append_of_mem hmem
  refine ⟨front, back, hentries, fun other hother => ?_⟩
  have hnodup := h.nodup
  rw [hentries, List.map_append, List.map_cons, List.nodup_append] at hnodup
  obtain ⟨-, -, hdisjoint⟩ := hnodup
  have hne := hdisjoint _ (List.mem_map_of_mem hother) _ List.mem_cons_self
  simpa using fun hsame : location = other.1 => hne hsame.symm

/-- A directory lists what stands one step below it. -/
theorem mem_children_iff (h : tree.WellFormed) {name : String} :
    (name, entry) ∈ tree.children location ↔ tree.get? (location ++ [name]) = some entry :=
  ⟨fun hmem => h.get?_of_mem (mem_children.mp hmem), mem_children_of_get?⟩

/-- No name is listed twice. -/
theorem nodup_children (h : tree.WellFormed) (location : List String) :
    ((tree.children location).map Prod.fst).Nodup := by
  have hnames : (tree.children location).map Prod.fst =
      (tree.entries.map Prod.fst).filterMap fun place =>
        if place.dropLast = location then place.getLast? else none := by
    rw [children, List.map_filterMap, List.filterMap_map]
    refine List.filterMap_congr fun entry _ => ?_
    obtain ⟨place, entry⟩ := entry
    dsimp only [Function.comp_apply]
    cases place.getLast? with
    | none => simp
    | some name => by_cases hplace : place.dropLast = location <;> simp [hplace]
  rw [hnames]
  refine List.Nodup.filterMap (fun place other name hplace hother => ?_) h.nodup
  rw [Option.mem_def, Option.ite_none_right_eq_some] at hplace hother
  rw [← List.dropLast_append_getLast? name hplace.2, ← List.dropLast_append_getLast? name hother.2,
    hplace.1, hother.1]

/-- What stands below a location stands below a directory, under a legal name. -/
theorem get?_of_concat (h : tree.WellFormed) {name : String}
    (hentry : tree.get? (location ++ [name]) = some entry) :
    tree.get? location = some .directory ∧ Path.IsLegal name := by
  obtain ⟨directory, last, hlocation, hlegal, hdirectory⟩ :=
    h.placed (mem_entries_of_get? (by simp) hentry)
  obtain ⟨rfl, hlast⟩ := List.append_inj' hlocation rfl
  obtain rfl := List.singleton_inj.mp hlast
  exact ⟨hdirectory, hlegal⟩

theorem get?_of_append (h : tree.WellFormed) {names : List String} (hne : names ≠ [])
    (hentry : tree.get? (location ++ names) = some entry) :
    tree.get? location = some .directory ∧ ∀ s ∈ names, Path.IsLegal s := by
  induction names using List.reverseRecOn generalizing entry with
  | nil => exact absurd rfl hne
  | append_singleton names name ih =>
    rw [← List.append_assoc] at hentry
    obtain ⟨hdirectory, hlegal⟩ := h.get?_of_concat hentry
    by_cases hnil : names = []
    · subst hnil
      rw [List.append_nil] at hdirectory
      exact ⟨hdirectory, by simpa using hlegal⟩
    · obtain ⟨hplace, hnames⟩ := ih hnil hdirectory
      exact ⟨hplace, by simpa [or_imp, forall_and] using ⟨hnames, hlegal⟩⟩

/-- Segments that lead to a directory lead on with the names of a directory below it. -/
theorem leadsTo_append (h : tree.WellFormed) {base names : List String}
    (hlead : tree.LeadsTo base location)
    (hdirectory : tree.get? (location ++ names) = some .directory) :
    tree.LeadsTo (base ++ names) (location ++ names) := by
  induction names generalizing base location with
  | nil => simpa using hlead
  | cons s rest ih =>
    rw [List.append_cons location] at hdirectory ⊢
    rw [List.append_cons base]
    have hnext : tree.get? (location ++ [s]) = some .directory := by
      by_cases hnil : rest = []
      · simpa [hnil] using hdirectory
      · exact (h.get?_of_append hnil hdirectory).1
    have hlegal := (h.get?_of_concat hnext).2
    exact ih (hlead.concat hlegal.isName hlegal.size hnext) hdirectory

end FileTree.WellFormed

end FormScaffold
