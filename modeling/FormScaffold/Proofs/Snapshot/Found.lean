import FormScaffold.Proofs.Files.Listing
import FormScaffold.Proofs.Snapshot.Loaded
import FormScaffold.Proofs.Version.Precedence
import FormScaffold.Snapshot.Discover

/-!
# Saved forms that are found

A search lists the files below a directory whose names are those of saved forms: all that are at
most three levels below it, each once, in the order of their names from the top (`discover_finds`).
The snapshot of a form that has been written is among them, since its name, its place and its
version are those that a search and a reader look for (`found_of_inPlace`).
-/

namespace FormScaffold.Snapshot

open FileTree
open FormScaffold.Path (IsName weight)

/-! ## Names of saved forms -/

/-- The name of a saved form is one of the endings behind something else. -/
theorem isFileName_iff {name : String} :
    isFileName name = true ↔
      ∃ stem suffix, name = stem ++ suffix ∧ stem ≠ "" ∧ suffix ∈ fileSuffixes := by
  rw [isFileName, List.any_eq_true]
  constructor
  · rintro ⟨suffix, hsuffix, h⟩
    obtain ⟨hends, hlength⟩ := (Bool.and_eq_true _ _).mp h
    obtain ⟨stem, hstem⟩ := List.isSuffixOf_iff_suffix.mp hends
    have hname : name = String.ofList stem ++ suffix :=
      String.toList_injective (by rw [String.toList_append, String.toList_ofList, hstem])
    refine ⟨String.ofList stem, suffix, hname, ?_, hsuffix⟩
    intro hnil
    rw [hname, hnil, String.empty_append] at hlength
    exact absurd (of_decide_eq_true hlength) (lt_irrefl _)
  · rintro ⟨stem, suffix, rfl, hstem, hsuffix⟩
    have hlength : stem.length ≠ 0 := fun h => hstem (String.length_eq_zero_iff.mp h)
    refine ⟨suffix, hsuffix, (Bool.and_eq_true _ _).mpr ⟨?_, decide_eq_true ?_⟩⟩
    · exact List.isSuffixOf_iff_suffix.mpr ⟨stem.toList, by simp⟩
    · rw [String.length_append]
      omega

/-! ## The order of paths -/

instance : Std.TransCmp fun a b : String => Text.compareChars a.toList b.toList where
  eq_swap {a b} := @Std.OrientedCmp.eq_swap _ Text.compareChars _ a.toList b.toList
  isLE_trans {a b c} := @Std.TransCmp.isLE_trans _ Text.compareChars _ a.toList b.toList c.toList

instance : Std.LawfulEqCmp fun a b : String => Text.compareChars a.toList b.toList where
  compare_self := Std.ReflCmp.compare_self
  eq_of_compare h := String.toList_injective (Std.LawfulEqCmp.eq_of_compare h)

instance : Std.TransCmp compareNames := inferInstanceAs (Std.TransCmp (Text.compareLists _))

instance : Std.LawfulEqCmp compareNames := inferInstanceAs (Std.LawfulEqCmp (Text.compareLists _))

theorem compareNames_eq_lt_iff {a b : List String} : compareNames a b = .lt ↔ a < b := by
  have hname : (fun a b : String => Text.compareChars a.toList b.toList = .lt) =
      fun a b => a < b := by
    funext a b
    rw [Text.compareChars_eq_lt_iff, String.lt_iff]
  rw [compareNames, Text.compareLists_eq_lt_iff, hname]
  rfl

/-- What is ordered and names nothing twice is strictly ordered. -/
theorem pairwise_mergeSort_compareNames {found : List (List String)} (h : found.Nodup) :
    (found.mergeSort fun a b => (compareNames a b).isLE).Pairwise (· < ·) := by
  have htotal (a b : List String) :
      ((compareNames a b).isLE || (compareNames b a).isLE) = true := by
    rw [@Std.OrientedCmp.eq_swap _ compareNames _ b a]
    cases compareNames a b <;> rfl
  have hordered : (found.mergeSort fun a b => (compareNames a b).isLE).Pairwise
      fun a b => (compareNames a b).isLE :=
    List.pairwise_mergeSort (fun _ _ _ => Std.TransCmp.isLE_trans) htotal found
  have hnodup : (found.mergeSort fun a b => (compareNames a b).isLE).Nodup :=
    (List.mergeSort_perm found _).nodup_iff.mpr h
  refine (hordered.and hnodup).imp fun {a b} ⟨hle, hne⟩ => compareNames_eq_lt_iff.mp ?_
  cases hcompare : compareNames a b with
  | lt => rfl
  | eq => exact absurd (Std.LawfulEqCmp.eq_of_compare hcompare) hne
  | gt => exact absurd hle (by simp [hcompare])

/-! ## The search -/

/-- The files that one item of a directory gives to a search. -/
def filesOf (search : String → List (List String)) : String × FileKind → List (List String)
  | (name, .file) => if isFileName name then [[name]] else []
  | (name, .directory) => (search name).map (name :: ·)
  | (_, .other) => []

/-- The files that a search finds. -/
def filesIn (tree : FileTree) : Nat → Path → List (List String)
  | 0, _ => []
  | depth + 1, directory =>
    match tree.list directory with
    | .error _ => []
    | .ok listed => listed.flatMap
        (filesOf fun name => filesIn tree depth (directory.join ⟨[name]⟩))

theorem head?_of_mem_filesOf {search : String → List (List String)} {item : String × FileKind}
    {names : List String} (h : names ∈ filesOf search item) : names.head? = some item.1 := by
  obtain ⟨name, _ | _ | _⟩ := item
  · obtain ⟨rest, -, rfl⟩ := List.mem_map.mp h
    rfl
  · rw [filesOf] at h
    split at h
    · rw [List.mem_singleton.mp h]
      rfl
    · exact absurd h List.not_mem_nil
  · exact absurd h List.not_mem_nil

theorem nodup_filesOf {search : String → List (List String)} (h : ∀ name, (search name).Nodup)
    (item : String × FileKind) : (filesOf search item).Nodup := by
  obtain ⟨name, _ | _ | _⟩ := item
  · exact (h name).map fun _ _ hcons => (List.cons.inj hcons).2
  · rw [filesOf]
    split
    · exact List.nodup_singleton _
    · exact List.nodup_nil
  · exact List.nodup_nil

variable {tree : FileTree}

theorem run_mapM {α β : Type} {f : α → StateM FileTree β} {g : α → β}
    (h : ∀ a, (f a).run tree = (g a, tree)) (items : List α) :
    (items.mapM f).run tree = (items.map g, tree) := by
  induction items with
  | nil => rfl
  | cons a items ih =>
    rw [List.mapM_cons, run_bind, h a, run_bind, ih]
    rfl

/-- A search only looks. -/
theorem run_filesBelow (tree : FileTree) (depth : Nat) (directory : Path) :
    (filesBelow depth directory : StateM FileTree _).run tree =
      (filesIn tree depth directory, tree) := by
  induction depth generalizing directory with
  | zero => rfl
  | succ depth ih =>
    have hlist : (FileAccess.list directory : StateM FileTree _).run tree =
        (tree.list directory, tree) := rfl
    rw [filesBelow, run_bind, hlist, filesIn]
    cases tree.list directory with
    | error fault => rfl
    | ok listed =>
      dsimp only
      rw [run_bind, run_mapM
        (g := filesOf fun name => filesIn tree depth (directory.join ⟨[name]⟩))]
      · rw [List.flatMap_def]
        rfl
      · rintro ⟨name, _ | _ | _⟩
        · dsimp only
          rw [run_bind, ih]
          rfl
        · rfl
        · rfl

theorem exists_list_of_mem {depth : Nat} {directory : Path} {names : List String}
    (h : names ∈ filesIn tree depth directory) : ∃ listed, tree.list directory = .ok listed := by
  cases depth with
  | zero => exact absurd h List.not_mem_nil
  | succ depth =>
    rw [filesIn] at h
    split at h
    · exact absurd h List.not_mem_nil
    · next listed hlist => exact ⟨listed, hlist⟩

/-- What is found in a directory is one of its files or is found in one of its directories. -/
theorem mem_filesIn_succ {depth : Nat} {directory : Path} {place names : List String}
    (hlocate : tree.locate directory = .ok place) (hplace : tree.get? place = some .directory) :
    names ∈ filesIn tree (depth + 1) directory ↔
      (∃ name bytes, (name, .file bytes) ∈ tree.children place ∧ isFileName name = true ∧
        names = [name]) ∨
      ∃ name rest, (name, .directory) ∈ tree.children place ∧
        rest ∈ filesIn tree depth (directory.join ⟨[name]⟩) ∧ names = name :: rest := by
  have hlist := list_eq_ok_iff.mpr ⟨place, hlocate, hplace, rfl⟩
  rw [filesIn, hlist]
  simp only [List.mem_flatMap, List.mem_map]
  constructor
  · rintro ⟨-, ⟨⟨name, _ | bytes⟩, hchild, rfl⟩, hnames⟩
    · obtain ⟨rest, hrest, rfl⟩ := List.mem_map.mp hnames
      exact .inr ⟨name, rest, hchild, hrest, rfl⟩
    · dsimp only [FileEntry.kind, filesOf] at hnames
      split at hnames
      · next hname => exact .inl ⟨name, bytes, hchild, hname, List.mem_singleton.mp hnames⟩
      · exact absurd hnames List.not_mem_nil
  · rintro (⟨name, bytes, hchild, hname, rfl⟩ | ⟨name, rest, hchild, hrest, rfl⟩)
    · exact ⟨_, ⟨_, hchild, rfl⟩, by simp [FileEntry.kind, filesOf, hname]⟩
    · exact ⟨_, ⟨_, hchild, rfl⟩, List.mem_map_of_mem hrest⟩

/-- A file is found where directories lead, as long as their path fits. -/
theorem mem_filesIn_of_leadsTo {depth : Nat} {directory : Path}
    {place front location : List String} {name : String} {bytes : ByteArray}
    (hlocate : tree.locate directory = .ok place) (hplace : tree.get? place = some .directory)
    (hfront : ∀ s ∈ front, IsName s) (hlead : tree.LeadsTo (directory.base ++ front) location)
    (hfits : (directory.below front).Fits) (hdepth : front.length < depth)
    (hname : isFileName name = true)
    (hfile : tree.get? (location ++ [name]) = some (.file bytes)) :
    front ++ [name] ∈ filesIn tree depth directory := by
  have hbase := leadsTo_base hlocate hplace
  induction front generalizing directory place depth with
  | nil =>
    rw [List.append_nil] at hlead
    obtain rfl := hbase.unique hlead
    obtain ⟨depth, rfl⟩ := Nat.exists_eq_succ_of_ne_zero (Nat.ne_zero_of_lt hdepth)
    exact (mem_filesIn_succ hlocate hplace).mpr
      (.inl ⟨name, bytes, mem_children_of_get? hfile, hname, rfl⟩)
  | cons s rest ih =>
    obtain ⟨hs, hrest⟩ := List.forall_mem_cons.mp hfront
    obtain ⟨depth, rfl⟩ := Nat.exists_eq_succ_of_ne_zero (Nat.ne_zero_of_lt hdepth)
    rw [List.append_cons] at hlead
    obtain ⟨next, hnext, rfl⟩ := hlead.of_append hrest
    obtain ⟨place', hplace', rfl⟩ := hnext.of_append (by simpa using hs)
    obtain rfl := hbase.unique hplace'
    rw [Path.below_cons, Path.join_singleton hs] at hfits
    have hjoin := hnext.locate (Path.isEmpty_concat hs _) (hfits.of_below hrest)
    have hlead' := leadsTo_base hjoin hnext.2
    refine (mem_filesIn_succ hlocate hplace).mpr
      (.inr ⟨s, rest ++ [name], mem_children_of_get? hnext.2, ?_, rfl⟩)
    rw [Path.join_singleton hs]
    exact ih hjoin hnext.2 hrest (by rwa [Path.base_concat hs]) hfits
      (Nat.lt_of_succ_lt_succ hdepth) hlead'

/-- A search of a well-formed tree finds the files that have a name of a saved form, stand in a
directory that can be listed and are at most so many levels below. -/
theorem mem_filesIn_iff (h : tree.WellFormed) {depth : Nat} {directory : Path}
    {place names : List String} (hlocate : tree.locate directory = .ok place)
    (hplace : tree.get? place = some .directory) :
    names ∈ filesIn tree depth directory ↔
      ∃ front name, names = front ++ [name] ∧ front.length < depth ∧ isFileName name = true ∧
        (∃ bytes, tree.get? (place ++ front ++ [name]) = some (.file bytes)) ∧
        ∃ listed, tree.list (directory.below front) = .ok listed := by
  constructor
  · intro hnames
    induction depth generalizing directory place names with
    | zero => exact absurd hnames List.not_mem_nil
    | succ depth ih =>
      rcases (mem_filesIn_succ hlocate hplace).mp hnames with
        ⟨name, bytes, hchild, hname, rfl⟩ | ⟨s, rest, hchild, hrest, rfl⟩
      · refine ⟨[], name, rfl, Nat.succ_pos depth, hname, ⟨bytes, ?_⟩, exists_list_of_mem hnames⟩
        rw [List.append_nil]
        exact h.mem_children_iff.mp hchild
      · have hdirectory := h.mem_children_iff.mp hchild
        have hs := (h.get?_of_concat hdirectory).2
        -- Something was found behind the next path, so that path fits.
        obtain ⟨listed, hlisted⟩ := exists_list_of_mem hrest
        obtain ⟨next, hnext, -⟩ := list_eq_ok_iff.mp hlisted
        have hlead := (leadsTo_base hlocate hplace).concat hs.isName hs.size hdirectory
        have hjoin : tree.locate (directory.join ⟨[s]⟩) = .ok (place ++ [s]) := by
          rw [Path.join_singleton hs.isName] at hnext ⊢
          exact hlead.locate (Path.isEmpty_concat hs.isName _) (locate_eq_ok_iff.mp hnext).2.1
        obtain ⟨front, name, rfl, hdepth, hname, ⟨bytes, hfile⟩, hlist⟩ :=
          ih hjoin hdirectory hrest
        refine ⟨s :: front, name, rfl, Nat.succ_lt_succ hdepth, hname, ⟨bytes, ?_⟩, hlist⟩
        rw [← hfile, List.append_assoc place [s] front]
        rfl
  · rintro ⟨front, name, rfl, hdepth, hname, ⟨bytes, hfile⟩, ⟨listed, hlist⟩⟩
    have hdirectory := (h.get?_of_concat hfile).1
    have hfront : ∀ s ∈ front, IsName s := by
      by_cases hnil : front = []
      · simp [hnil]
      · exact fun s hs => ((h.get?_of_append hnil hdirectory).2 s hs).isName
    obtain ⟨location, hlocation, -⟩ := list_eq_ok_iff.mp hlist
    have hlead := h.leadsTo_append (leadsTo_base hlocate hplace) hdirectory
    exact mem_filesIn_of_leadsTo hlocate hplace hfront hlead (locate_eq_ok_iff.mp hlocation).2.1
      hdepth hname hfile

/-- Nothing is found twice. -/
theorem nodup_filesIn (h : tree.WellFormed) (depth : Nat) (directory : Path) :
    (filesIn tree depth directory).Nodup := by
  induction depth generalizing directory with
  | zero => exact List.nodup_nil
  | succ depth ih =>
    rw [filesIn]
    split
    · exact List.nodup_nil
    · next listed hlist =>
      obtain ⟨place, -, -, rfl⟩ := list_eq_ok_iff.mp hlist
      refine List.nodup_flatMap.mpr ⟨fun item _ => nodup_filesOf (fun name => ih _) item, ?_⟩
      rw [List.pairwise_map]
      refine (List.pairwise_map.mp (h.nodup_children place)).imp fun {a b} hne names ha hb => hne ?_
      exact Option.some.inj ((head?_of_mem_filesOf ha).symm.trans (head?_of_mem_filesOf hb))

/-! ## What is found -/

/-- The paths that a search from a directory gives. -/
def foundFrom (tree : FileTree) (start : Path) : List Path :=
  ((filesIn tree searchDepth start).mergeSort fun a b => (compareNames a b).isLE).map start.below

theorem run_discover {start : Path} (h : tree.kind start = .ok .directory) :
    (discover start : StateM FileTree _).run tree = (foundFrom tree start, tree) := by
  rw [discover, run_bind, run_kind, h]
  dsimp only
  rw [run_bind, run_filesBelow]
  rfl

theorem mem_foundFrom {start path : Path} :
    path ∈ foundFrom tree start ↔ ∃ names ∈ filesIn tree searchDepth start,
      start.below names = path := by
  simp only [foundFrom, List.mem_map, List.mem_mergeSort]

/-- A file with the name of a saved form, at most three levels below a directory. -/
structure SavedBelow (tree : FileTree) (place front : List String) (name : String) : Prop where
  near : (front ++ [name]).length ≤ 3
  named : ∃ stem suffix, name = stem ++ suffix ∧ stem ≠ "" ∧
    suffix ∈ ["Config.json", "Config.yaml", "Config.yml"]
  isFile : ∃ bytes, tree.get? (place ++ front ++ [name]) = some (.file bytes)

variable {start : Path} {place : List String}

theorem mem_foundFrom_iff (h : tree.WellFormed) (hlocate : tree.locate start = .ok place)
    (hplace : tree.get? place = some .directory) {path : Path} :
    path ∈ foundFrom tree start ↔
      ∃ front name, path = start.below (front ++ [name]) ∧ SavedBelow tree place front name ∧
        ∃ listed, tree.list (start.below front) = .ok listed := by
  simp only [mem_foundFrom, mem_filesIn_iff h hlocate hplace]
  constructor
  · rintro ⟨-, ⟨front, name, rfl, hdepth, hname, hfile, hlist⟩, rfl⟩
    have hnear : (front ++ [name]).length ≤ 3 := by
      rw [List.length_append]
      exact hdepth
    exact ⟨front, name, rfl, ⟨hnear, isFileName_iff.mp hname, hfile⟩, hlist⟩
  · rintro ⟨front, name, rfl, ⟨hnear, hnamed, hfile⟩, hlist⟩
    rw [List.length_append] at hnear
    exact ⟨_, ⟨front, name, rfl, hnear, isFileName_iff.mpr hnamed, hfile, hlist⟩, rfl⟩

theorem pairwise_foundFrom (h : tree.WellFormed) (hlocate : tree.locate start = .ok place)
    (hplace : tree.get? place = some .directory) :
    (foundFrom tree start).Pairwise fun p q => p.segments < q.segments := by
  have hnames {names : List String} (hmem : names ∈ (filesIn tree searchDepth start).mergeSort
      fun a b => (compareNames a b).isLE) :
      (start.below names).segments = start.base ++ names := by
    obtain ⟨front, name, rfl, -, hname, ⟨bytes, hfile⟩, -⟩ :=
      (mem_filesIn_iff h hlocate hplace).mp (List.mem_mergeSort.mp hmem)
    rw [List.append_assoc] at hfile
    have hlegal := (h.get?_of_append (by simp) hfile).2
    rw [Path.below_eq (fun s hs => (hlegal s hs).isName) (by simp)]
  rw [foundFrom, List.pairwise_map]
  refine (pairwise_mergeSort_compareNames (nodup_filesIn h searchDepth start)).imp_of_mem ?_
  intro a b ha hb hlt
  rw [hnames ha, hnames hb]
  exact List.Lex.append_left _ hlt _

/-- A directory whose path is not too long has room for the paths of the directories that are at
most two levels below it. -/
theorem exists_list_of_room (h : tree.WellFormed) (hlocate : tree.locate start = .ok place)
    (hplace : tree.get? place = some .directory) (hroom : start.text.utf8ByteSize ≤ 3583)
    {front : List String} (hnear : front.length ≤ 2)
    (hdirectory : tree.get? (place ++ front) = some .directory) :
    ∃ listed, tree.list (start.below front) = .ok listed := by
  by_cases hnil : front = []
  · subst hnil
    exact ⟨_, list_eq_ok_iff.mpr ⟨place, hlocate, hplace, rfl⟩⟩
  · have hlegal := (h.get?_of_append hnil hdirectory).2
    have hnames : ∀ s ∈ front, IsName s := fun s hs => (hlegal s hs).isName
    have hlead := h.leadsTo_append (leadsTo_base hlocate hplace) hdirectory
    obtain ⟨hempty, hfits, -⟩ := locate_eq_ok_iff.mp hlocate
    have hroom' : start.text.utf8ByteSize + 1 + front.length * (nameLimit + 1) ≤ pathLimit := by
      simp only [nameLimit, pathLimit]
      omega
    have hfits := hfits.append_legal hempty hlegal hroom'
    rw [← Path.below_eq hnames hnil] at hfits
    refine ⟨_, list_eq_ok_iff.mpr ⟨place ++ front, ?_, hdirectory, rfl⟩⟩
    refine LeadsTo.locate ?_ (Path.isEmpty_below hnames hnil start) hfits
    rwa [Path.below_eq hnames hnil]

/-! ## Saved forms that are found again -/

/-- The snapshot of a form has the name of a saved form. -/
theorem isFileName_fileName {names : Naming} (h : isIdentifier names.form = true) :
    isFileName (names.fileName .snapshot) = true := by
  refine isFileName_iff.mpr ⟨names.form, "Config.json", ?_, ne_empty_of_isIdentifier h, by decide⟩
  apply String.toList_injective
  simp [Naming.fileName, Naming.stem, Naming.extension]

variable {form : Form} {after : FileTree}

theorem target_snapshot (h : isIdentifier form.naming.form = true) (directory : Path) :
    (form.artifact .snapshot).target directory =
      ⟨directory.base ++ [form.naming.fileName .snapshot]⟩ := by
  rw [Form.target_artifact h, Naming.directory, List.append_nil]

/-- The path of a snapshot in a directory below another one. -/
theorem target_below (h : isIdentifier form.naming.form = true) {names : List String}
    (hnames : ∀ s ∈ names, IsName s) (start : Path) :
    (form.artifact .snapshot).target (start.below names) =
      start.below (names ++ [form.naming.fileName .snapshot]) := by
  rw [target_snapshot h, Path.base_below hnames,
    Path.below_concat hnames (Naming.isName_fileName h .snapshot)]

/-- The snapshot of a form that is in place stands in the output directory. -/
theorem exists_standing (h : isIdentifier form.naming.form = true) {output : Path}
    (hinPlace : InPlace (form.artifacts.map fun a => a.planned output) after) :
    ((form.artifact .snapshot).target output).Fits ∧
      (form.naming.fileName .snapshot).utf8ByteSize ≤ nameLimit ∧
      ∃ location, after.LeadsTo output.base location ∧
        after.get? (location ++ [form.naming.fileName .snapshot]) =
          some (.file (textOf form).toUTF8) := by
  have hfile : (form.artifact .snapshot).planned output ∈
      form.artifacts.map fun a => a.planned output :=
    List.mem_map_of_mem (List.mem_map_of_mem form.snapshot_mem_roles)
  obtain ⟨place, hlocate, hstands⟩ := hinPlace.standing _ hfile
  have htarget : ((form.artifact .snapshot).planned output).path =
      ⟨output.base ++ [form.naming.fileName .snapshot]⟩ := target_snapshot h output
  rw [htarget, locate_concat_eq_ok_iff (Naming.isName_fileName h .snapshot)] at hlocate
  obtain ⟨hfits, hsize, location, hlead, rfl⟩ := hlocate
  exact ⟨target_snapshot h output ▸ hfits, hsize, location, hlead, hstands⟩

/-- The snapshot of a form that is in place is found from a directory that it is at most three
levels below, and the form is loaded from the path that is found. -/
theorem found_of_inPlace (hvalid : form.Valid) (hcount : form.Countable) {output : Path}
    (hinPlace : InPlace (form.artifacts.map fun a => a.planned output) after)
    (hstart : after.kind start = .ok .directory) {names : List String}
    (hnames : ∀ s ∈ names, IsName s) (hnear : names.length ≤ 2) {location : List String}
    (hlead : after.LeadsTo (start.base ++ names) location)
    (houtput : after.LeadsTo output.base location)
    (hfits : ((form.artifact .snapshot).target (start.below names)).Fits) :
    let path := (form.artifact .snapshot).target (start.below names)
    path ∈ foundFrom after start ∧
      (∃ place, after.locate path = .ok place ∧
        after.locate ((form.artifact .snapshot).target output) = .ok place) ∧
      (load path : StateM FileTree _).run after =
        (.ok ⟨form.withoutBlank, some FormScaffold.generatorVersion⟩, after) := by
  intro path
  have hname : isIdentifier form.naming.form = true := hvalid.name
  have hfileName := Naming.isName_fileName hname .snapshot
  obtain ⟨hfits', hsize, location', houtput', hfile⟩ := exists_standing hname hinPlace
  obtain rfl := houtput.unique houtput'
  have hpath : path = ⟨start.base ++ names ++ [form.naming.fileName .snapshot]⟩ :=
    (target_below hname hnames start).trans (Path.below_concat hnames hfileName start)
  have hlocate : after.locate path = .ok (location' ++ [form.naming.fileName .snapshot]) := by
    rw [hpath]
    exact (locate_concat_eq_ok_iff hfileName).mpr ⟨hpath ▸ hfits, hsize, _, hlead, rfl⟩
  refine ⟨?_, ⟨_, hlocate, ?_⟩, ?_⟩
  · obtain ⟨place, hplace, hdirectory⟩ := kind_eq_directory_iff.mp hstart
    refine mem_foundFrom.mpr ⟨names ++ [form.naming.fileName .snapshot], ?_,
      (target_below hname hnames start).symm⟩
    rw [target_below hname hnames, Path.below_append] at hfits
    exact mem_filesIn_of_leadsTo hplace hdirectory hnames hlead
      (hfits.of_below (by simpa using hfileName)) (Nat.lt_succ_of_le hnear)
      (isFileName_fileName hname) hfile
  · rw [target_snapshot hname output] at hfits' ⊢
    exact (locate_concat_eq_ok_iff hfileName).mpr ⟨hfits', hsize, _, houtput, rfl⟩
  · exact run_load_of_read hvalid hcount (Form.isYamlPath_target hname _)
      (read_eq_ok_iff.mpr ⟨_, hlocate, hfile⟩)

theorem written_of_writeArtifacts {artifacts : List Artifact} {output : Path}
    {before : FileTree} {written : List PlannedFile}
    (hrun : (writeArtifacts artifacts ⟨output, false⟩ : StateM FileTree _).run before =
      (.ok written, after)) : written = artifacts.map fun a => a.planned output := by
  rw [Form.run_writeArtifacts] at hrun
  split at hrun
  · exact (Except.ok.inj (Prod.mk.inj hrun).1).symm
  · exact absurd (Prod.mk.inj hrun).1 (by simp)

/-- A search from a directory changes nothing and gives, in the order of their names and each once,
the paths of the saved forms that are at most three levels below it and stand in a directory that
can be listed, as all directories so near can if the path of the first one is not too long.

When the artifacts of a form have been written into an output directory at most two levels below
another one, a search from there finds their snapshot, and the form is loaded from it without a
warning.  The output directory may have been given by a path of its own, as long as the path that
leads to the snapshot from the other directory is not too long. -/
theorem discover_finds :
    (∀ (tree : FileTree) (start : Path) (place : List String), tree.WellFormed →
      tree.locate start = .ok place → tree.get? place = some .directory →
      ∃ found, (discover start : StateM FileTree _).run tree = (found, tree) ∧
        found.Pairwise (fun p q => p.segments < q.segments) ∧
        (∀ path, path ∈ found ↔ ∃ front name, path = start.below (front ++ [name]) ∧
          SavedBelow tree place front name ∧
          ∃ listed, tree.list (start.below front) = .ok listed) ∧
        (start.text.utf8ByteSize ≤ 3583 → ∀ path, path ∈ found ↔
          ∃ front name, path = start.below (front ++ [name]) ∧
            SavedBelow tree place front name)) ∧
    ∀ (form : Form) (artifacts : List Artifact) (output : Path) (before after : FileTree)
      (written : List PlannedFile), form.generate = .ok artifacts → form.Countable →
      (writeArtifacts artifacts ⟨output, false⟩ : StateM FileTree _).run before =
        (.ok written, after) →
      ∃ snapshot, artifacts.filter (fun a => a.role = .snapshot) = [snapshot] ∧
        snapshot.planned output ∈ written ∧
        ∀ (start : Path) (names : List String), after.kind start = .ok .directory →
          (∀ s ∈ names, IsName s) → names.length ≤ 2 →
          (output = start.below names ∨
            (∃ location, after.LeadsTo (start.base ++ names) location ∧
              after.LeadsTo output.base location) ∧
            (snapshot.target (start.below names)).Fits) →
          let path := snapshot.target (start.below names)
          path ∈ ((discover start : StateM FileTree _).run after).1 ∧
            (∃ location, after.locate path = .ok location ∧
              after.locate (snapshot.target output) = .ok location) ∧
            ∃ loaded, (load path : StateM FileTree _).run after = (.ok loaded, after) ∧
              loaded.form = form.withoutBlank ∧ loaded.warning? = none := by
  constructor
  · intro tree start place h hlocate hplace
    have hkind := kind_eq_directory_iff.mpr ⟨place, hlocate, hplace⟩
    refine ⟨foundFrom tree start, run_discover hkind, pairwise_foundFrom h hlocate hplace,
      fun path => mem_foundFrom_iff h hlocate hplace, fun hroom path => ?_⟩
    rw [mem_foundFrom_iff h hlocate hplace]
    refine exists_congr fun front => exists_congr fun name => and_congr_right fun _ =>
      and_iff_left_of_imp fun hsaved => ?_
    obtain ⟨bytes, hfile⟩ := hsaved.isFile
    have hnear := hsaved.near
    rw [List.length_append, List.length_singleton] at hnear
    exact exists_list_of_room h hlocate hplace hroom (Nat.le_of_succ_le_succ hnear)
      (h.get?_of_concat hfile).1
  · intro form artifacts output before after written hgenerate hcount hrun
    obtain ⟨hvalid, rfl⟩ := Form.valid_of_generate hgenerate
    have hinPlace := Form.inPlace_of_writeArtifacts hgenerate hrun
    refine ⟨form.artifact .snapshot, form.filter_artifacts form.snapshot_mem_roles, ?_, ?_⟩
    · rw [written_of_writeArtifacts hrun]
      exact List.mem_map_of_mem (List.mem_map_of_mem form.snapshot_mem_roles)
    · intro start names hstart hnames hnear houtput
      obtain ⟨hfits, -, location, hlead, -⟩ := exists_standing hvalid.name hinPlace
      have hreached : after.LeadsTo (start.base ++ names) location ∧
          ((form.artifact .snapshot).target (start.below names)).Fits := by
        rcases houtput with rfl | ⟨⟨other, hother, hlead'⟩, hfits'⟩
        · exact ⟨Path.base_below hnames start ▸ hlead, hfits⟩
        · obtain rfl := hlead.unique hlead'
          exact ⟨hother, hfits'⟩
      obtain ⟨hmem, hsame, hload⟩ :=
        found_of_inPlace hvalid hcount hinPlace hstart hnames hnear hreached.1 hlead hreached.2
      refine ⟨?_, hsame, _, hload, rfl, Version.newerWarning?_self FormScaffold.generatorVersion⟩
      rw [run_discover hstart]
      exact hmem

/-- A tree with saved forms on several levels. -/
def shelves : FileTree where
  entries :=
    [ (["aConfig.json"], .file .empty), (["Config.json"], .file .empty), (["b"], .directory),
      (["b", "c"], .directory), (["b", "c", "dConfig.yaml"], .file .empty),
      (["b", "c", "e"], .directory), (["b", "c", "e", "fConfig.yml"], .file .empty) ]
  current := ["b"]

theorem wellFormed_shelves : shelves.WellFormed := by
  have hlegal : ∀ s ∈ ["aConfig.json", "Config.json", "b", "c", "dConfig.yaml", "e",
      "fConfig.yml"], Path.IsLegal s := by decide
  refine ⟨by decide, fun {location entry} hmem => ?_⟩
  refine ⟨location.dropLast, location.getLastD "", ?_⟩
  simp only [shelves, List.mem_cons, Prod.mk.injEq, List.not_mem_nil, or_false] at hmem
  rcases hmem with ⟨rfl, -⟩ | ⟨rfl, -⟩ | ⟨rfl, -⟩ | ⟨rfl, -⟩ | ⟨rfl, -⟩ | ⟨rfl, -⟩ | ⟨rfl, -⟩
  all_goals exact ⟨rfl, hlegal _ (by decide), rfl⟩

/-- A search from the directory above the current one, and one that finds what was just written. -/
theorem discover_finds_shelves :
    (shelves.WellFormed ∧ shelves.locate ⟨[".."]⟩ = .ok [] ∧
      ∃ found, (discover ⟨[".."]⟩ : StateM FileTree _).run shelves = (found, shelves) ∧
        found.Pairwise (fun p q => p.segments < q.segments) ∧
        ⟨["..", "aConfig.json"]⟩ ∈ found ∧ ⟨["..", "b", "c", "dConfig.yaml"]⟩ ∈ found) ∧
      Form.contact.generate = .ok Form.contact.artifacts ∧
      ∃ written after, (writeArtifacts Form.contact.artifacts
          ⟨⟨["project", "generated-form"]⟩, false⟩ : StateM FileTree _).run shelves =
            (.ok written, after) ∧
        ⟨["project", "generated-form", "contactConfig.json"]⟩ ∈
          ((discover ⟨["project"]⟩ : StateM FileTree _).run after).1 ∧
        ∃ loaded, (load ⟨["project", "generated-form", "contactConfig.json"]⟩ :
            StateM FileTree _).run after = (.ok loaded, after) ∧
          loaded.form = Form.contact ∧ loaded.warning? = none := by
  obtain ⟨hfinds, hwrites⟩ := discover_finds
  have hlocate : shelves.locate ⟨[".."]⟩ = .ok [] := rfl
  refine ⟨⟨wellFormed_shelves, hlocate, ?_⟩, ?_⟩
  · obtain ⟨found, hrun, hordered, -, hmem⟩ :=
      hfinds shelves ⟨[".."]⟩ [] wellFormed_shelves hlocate rfl
    refine ⟨found, hrun, hordered, (hmem (by decide) _).mpr ⟨[], "aConfig.json", rfl, ?_⟩,
      (hmem (by decide) _).mpr ⟨["b", "c"], "dConfig.yaml", rfl, ?_⟩⟩
    · exact ⟨by decide, ⟨"a", "Config.json", rfl, by decide, by decide⟩, .empty, rfl⟩
    · exact ⟨by decide, ⟨"d", "Config.yaml", rfl, by decide, by decide⟩, .empty, rfl⟩
  · have hgenerate : Form.contact.generate = .ok Form.contact.artifacts :=
      Form.generate_of_valid (by decide) (by decide)
    have hok : ((writeArtifacts Form.contact.artifacts ⟨⟨["project", "generated-form"]⟩, false⟩ :
        StateM FileTree _).run shelves).1.isOk = true := by decide +kernel
    have hstart : (((writeArtifacts Form.contact.artifacts
        ⟨⟨["project", "generated-form"]⟩, false⟩ : StateM FileTree _).run shelves).2.kind
          ⟨["project"]⟩) = .ok .directory := by decide +kernel
    refine ⟨hgenerate, ?_⟩
    cases hrun : (writeArtifacts Form.contact.artifacts
      ⟨⟨["project", "generated-form"]⟩, false⟩ : StateM FileTree _).run shelves with
    | mk result after =>
    rw [hrun] at hok hstart
    cases result with
    | error error => exact absurd hok Bool.false_ne_true
    | ok written =>
      obtain ⟨snapshot, hfilter, -, hfound⟩ := hwrites Form.contact Form.contact.artifacts _ shelves
        after written hgenerate ⟨by decide, by decide⟩ hrun
      obtain ⟨hmem, -, hload⟩ := hfound ⟨["project"]⟩ ["generated-form"] hstart
        (by simpa [IsName] using by decide) (by decide) (.inl rfl)
      have hpath : snapshot.target ((⟨["project"]⟩ : Path).below ["generated-form"]) =
          ⟨["project", "generated-form", "contactConfig.json"]⟩ := by
        obtain rfl := List.singleton_inj.mp
          ((Form.contact.filter_artifacts Form.contact.snapshot_mem_roles).symm.trans hfilter)
        decide +kernel
      rw [hpath] at hmem hload
      exact ⟨written, after, rfl, hmem, hload⟩

end FormScaffold.Snapshot
