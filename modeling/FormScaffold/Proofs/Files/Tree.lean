import FormScaffold.Files.Tree
import FormScaffold.Proofs.Files.Path
import FormScaffold.Proofs.Result

/-!
# Where paths lead

A path leads somewhere only through directories, so it leads to the same location in every tree
that has these directories (`KeepsDirectories.locate`), and a path that leads anywhere has a
directory at each path above it (`find_of_isAbove`).  A file and one beside it are in the same
directory (`leadsTo_of_locate_sibling`).
-/

namespace FormScaffold

open FormScaffold.Path (IsName isIdle dropIdle weight)

/-- A path that is not too long and has no zero character. -/
def Path.Fits (path : Path) : Prop :=
  (∀ s ∈ path.segments, '\x00' ∉ s.toList) ∧ weight path.segments ≤ FileTree.pathLimit

namespace FileTree

variable {tree : FileTree} {location : List String}

/-! ## Steps -/

theorem directory_of_step {segment : String} {next : List String}
    (h : tree.step location segment = .ok next) : tree.get? location = some .directory := by
  rw [step] at h
  split at h
  · exact absurd h (by simp)
  · exact absurd h (by simp)
  · assumption

theorem step_of_isIdle {segment : String} (hidle : isIdle segment = true)
    (h : tree.get? location = some .directory) : tree.step location segment = .ok location := by
  simp only [step, h, hidle, if_true]

theorem step_name_eq_ok_iff {name : String} (hname : IsName name) {next : List String} :
    tree.step location name = .ok next ↔
      tree.get? location = some .directory ∧ name.utf8ByteSize ≤ nameLimit ∧
        next = location ++ [name] := by
  obtain ⟨hidle, hdots⟩ := hname
  constructor
  · intro h
    have hdirectory := directory_of_step h
    simp only [step, hdirectory, hidle, Bool.false_eq_true, if_false, if_neg hdots] at h
    split at h
    · exact absurd h (by simp)
    · next hlimit => exact ⟨hdirectory, Nat.le_of_not_lt hlimit, (Except.ok.inj h).symm⟩
  · rintro ⟨hdirectory, hlimit, rfl⟩
    simp only [step, hdirectory, hidle, Bool.false_eq_true, if_false, if_neg hdots,
      if_neg (Nat.not_lt.mpr hlimit)]

/-- Where segments lead from a location. -/
def follow (tree : FileTree) (location : List String) (segments : List String) :
    Except Fault (List String) :=
  segments.foldlM tree.step location

theorem follow_append_eq_ok_iff {front back : List String} {last : List String} :
    tree.follow location (front ++ back) = .ok last ↔
      ∃ middle, tree.follow location front = .ok middle ∧ tree.follow middle back = .ok last := by
  rw [follow, List.foldlM_append]
  exact Except.bind_eq_ok_iff

theorem follow_cons_eq_ok_iff {segment : String} {rest last : List String} :
    tree.follow location (segment :: rest) = .ok last ↔
      ∃ next, tree.step location segment = .ok next ∧ tree.follow next rest = .ok last := by
  rw [follow, List.foldlM_cons]
  exact Except.bind_eq_ok_iff

theorem follow_nil (tree : FileTree) (location : List String) :
    tree.follow location [] = .ok location := rfl

theorem follow_idle {idle : List String} (hidle : ∀ s ∈ idle, isIdle s = true)
    (h : tree.get? location = some .directory) : tree.follow location idle = .ok location := by
  induction idle with
  | nil => rfl
  | cons s rest ih =>
    rw [follow_cons_eq_ok_iff]
    exact ⟨location, step_of_isIdle (hidle s List.mem_cons_self) h,
      ih fun t ht => hidle t (List.mem_cons_of_mem s ht)⟩

theorem eq_append_of_follow_names {names last : List String} (hnames : ∀ s ∈ names, IsName s)
    (h : tree.follow location names = .ok last) : last = location ++ names := by
  induction names generalizing location with
  | nil =>
    obtain rfl := Except.ok.inj h
    exact (List.append_nil _).symm
  | cons s rest ih =>
    obtain ⟨next, hstep, h⟩ := follow_cons_eq_ok_iff.mp h
    obtain ⟨-, -, rfl⟩ := (step_name_eq_ok_iff (hnames s List.mem_cons_self)).mp hstep
    rw [ih (fun t ht => hnames t (List.mem_cons_of_mem s ht)) h, List.append_assoc]
    rfl

/-! ## Paths -/

/-- Where a path begins. -/
def start (tree : FileTree) (path : Path) : List String :=
  if path.isAbsolute then [] else tree.current

theorem fits_iff {path : Path} (h : path.isEmpty = false) :
    path.Fits ↔ '\x00' ∉ path.text.toList ∧ path.text.utf8ByteSize < pathLimit := by
  have hne : path.segments ≠ [] := by
    intro hnil
    simp [Path.isEmpty, hnil] at h
  have hweight : path.text.utf8ByteSize + 1 = weight path.segments :=
    Path.utf8ByteSize_intercalate hne
  rw [Path.Fits, ← hweight, Nat.succ_le_iff, Path.zero_mem_text_iff]
  simp

theorem locate_eq_ok_iff {path : Path} :
    tree.locate path = .ok location ↔
      path.isEmpty = false ∧ path.Fits ∧
        tree.follow (tree.start path) path.segments = .ok location := by
  have hlocate : tree.locate path =
      if path.text.toList.contains '\x00' then .error .zeroCharacter
      else if path.isEmpty then .error .notFound
      else if pathLimit ≤ path.text.utf8ByteSize then .error .nameTooLong
      else tree.follow (tree.start path) path.segments := rfl
  cases hempty : path.isEmpty with
  | true =>
    rw [hlocate, hempty]
    split <;> simp
  | false =>
    rw [hlocate, hempty, fits_iff hempty]
    split
    · next hzero => simp [List.contains_iff_mem.mp hzero]
    · next hzero =>
      rw [List.contains_iff_mem] at hzero
      rw [if_neg Bool.false_ne_true]
      split
      · next hlong => simp [Nat.not_lt.mpr hlong]
      · next hlong => simp [hzero, Nat.lt_of_not_le hlong]

/-- Where a path leads, there is an entry. -/
theorem find_eq_ok_iff {path : Path} {entry : FileEntry} :
    tree.find path = .ok entry ↔
      ∃ location, tree.locate path = .ok location ∧ tree.get? location = some entry := by
  rw [find, Except.bind_eq_ok_iff]
  refine exists_congr fun location => and_congr_right fun _ => ?_
  cases tree.get? location <;> simp [pure, Except.pure]

theorem kind_eq_directory_iff {path : Path} :
    tree.kind path = .ok .directory ↔
      ∃ location, tree.locate path = .ok location ∧ tree.get? location = some .directory := by
  rw [← find_eq_ok_iff, kind]
  cases tree.find path with
  | error fault => simp [Except.map]
  | ok entry => cases entry <;> simp [Except.map, FileEntry.kind]

/-! ## Directories above a path -/

/-- A directory begins where a path in it begins. -/
theorem isAbsolute_ofDirectory {front back : List String} (hfront : front ≠ [])
    (hback : back ≠ []) :
    (Path.ofDirectory front).isAbsolute = (⟨front ++ back⟩ : Path).isAbsolute := by
  obtain ⟨first, rest, rfl⟩ := List.exists_cons_of_ne_nil hfront
  obtain ⟨second, tail, rfl⟩ := List.exists_cons_of_ne_nil hback
  cases rest <;> by_cases hfirst : first = "" <;> simp [Path.ofDirectory, Path.isAbsolute, hfirst]

theorem fits_ofDirectory {front back : List String} (hback : back ≠ [])
    (h : (⟨front ++ back⟩ : Path).Fits) : (Path.ofDirectory front).Fits := by
  obtain ⟨second, tail, rfl⟩ := List.exists_cons_of_ne_nil hback
  obtain ⟨hzero, hweight⟩ := h
  rw [Path.ofDirectory]
  split
  · next hroot =>
    subst hroot
    refine ⟨by simp, le_trans ?_ hweight⟩
    simp
    omega
  · refine ⟨fun s hs => hzero s (List.mem_append_left _ hs), le_trans ?_ hweight⟩
    simp

theorem follow_ofDirectory {front middle : List String}
    (h : tree.follow location front = .ok middle) (hmiddle : tree.get? middle = some .directory) :
    tree.follow location (Path.ofDirectory front).segments = .ok middle := by
  rw [Path.ofDirectory]
  split
  · next hroot =>
    subst hroot
    exact follow_append_eq_ok_iff.mpr ⟨middle, h, follow_idle (by decide) hmiddle⟩
  · exact h

/-- A path leads on only from the directory that it is in. -/
theorem find_of_parent? {path parent : Path} (hlocate : tree.locate path = .ok location)
    (hparent : path.parent? = some parent) (hne : parent.isEmpty = false) :
    tree.find parent = .ok .directory := by
  obtain ⟨-, hfits, hfollow⟩ := locate_eq_ok_iff.mp hlocate
  rcases Path.segments_of_parent? hparent with rfl | ⟨front, back, hpath, hfront, hback, -, rfl⟩
  · exact absurd hne (by decide)
  obtain ⟨segments⟩ := path
  obtain rfl : segments = front ++ back := hpath
  obtain ⟨second, tail, rfl⟩ := List.exists_cons_of_ne_nil hback
  obtain ⟨middle, hmiddle, hrest⟩ := follow_append_eq_ok_iff.mp hfollow
  obtain ⟨next, hstep, -⟩ := follow_cons_eq_ok_iff.mp hrest
  have hdirectory := directory_of_step hstep
  rw [start, ← isAbsolute_ofDirectory hfront hback] at hmiddle
  exact find_eq_ok_iff.mpr ⟨middle, locate_eq_ok_iff.mpr
    ⟨hne, fits_ofDirectory hback hfits, follow_ofDirectory hmiddle hdirectory⟩, hdirectory⟩

/-- Where a path leads, all paths above it are those of directories. -/
theorem find_of_isAbove {path directory : Path} (hlocate : tree.locate path = .ok location)
    (habove : directory.IsAbove path) (hne : directory.isEmpty = false) :
    tree.find directory = .ok .directory := by
  induction habove with
  | single hparent => exact find_of_parent? hlocate hparent hne
  | @tail inner outer _ hparent ih =>
    cases hinner : inner.isEmpty with
    | true =>
      rw [Path.parent?_of_isEmpty hinner] at hparent
      exact absurd hparent (by simp)
    | false =>
      obtain ⟨place, hplace, -⟩ := find_eq_ok_iff.mp (ih hinner)
      exact find_of_parent? hplace hparent hne

/-! ## Files beside each other -/

/-- Segments that lead to a directory. -/
def LeadsTo (tree : FileTree) (segments location : List String) : Prop :=
  tree.follow (if segments.head? = some "" then [] else tree.current) segments = .ok location ∧
    tree.get? location = some .directory

theorem LeadsTo.unique {segments other : List String} (h : tree.LeadsTo segments location)
    (hother : tree.LeadsTo segments other) : other = location :=
  Except.ok.inj (hother.1.symm.trans h.1)

theorem LeadsTo.of_dropIdle {segments : List String}
    (h : tree.LeadsTo (dropIdle segments) location) :
    tree.LeadsTo segments location := by
  obtain ⟨idle, hidle, hsegments⟩ := Path.exists_idle_append segments
  have hhead : segments.head? = (dropIdle segments).head? := by cases segments <;> rfl
  refine ⟨?_, h.2⟩
  rw [hhead, hsegments, follow_append_eq_ok_iff, ← hsegments]
  exact ⟨location, h.1, follow_idle hidle h.2⟩

/-- Names are appended to where the segments before them lead. -/
theorem LeadsTo.of_append {base names : List String} (hnames : ∀ s ∈ names, IsName s)
    (h : tree.LeadsTo (base ++ names) location) :
    ∃ place, tree.LeadsTo base place ∧ location = place ++ names := by
  obtain ⟨hfollow, hdirectory⟩ := h
  obtain ⟨place, hplace, hrest⟩ := follow_append_eq_ok_iff.mp hfollow
  obtain rfl := eq_append_of_follow_names hnames hrest
  have hhead : (base ++ names).head? = some "" ↔ base.head? = some "" := by
    cases base with
    | nil =>
      cases names with
      | nil => rfl
      | cons s rest => simp [(hnames s List.mem_cons_self).ne_empty]
    | cons s rest => rfl
  rw [if_congr hhead rfl rfl] at hplace
  refine ⟨place, ⟨hplace, ?_⟩, rfl⟩
  cases names with
  | nil => simpa using hdirectory
  | cons s rest =>
    obtain ⟨next, hstep, -⟩ := follow_cons_eq_ok_iff.mp hrest
    exact directory_of_step hstep

theorem isAbsolute_concat {name : String} (h : name ≠ "") (front : List String) :
    (⟨front ++ [name]⟩ : Path).isAbsolute = decide (front.head? = some "") := by
  cases front with
  | nil => simp [Path.isAbsolute]
  | cons first rest =>
    by_cases hfirst : first = ""
    · cases rest <;> simp [Path.isAbsolute, hfirst]
    · simp [Path.isAbsolute, hfirst]

/-- A path that ends in a name leads into the directory of the segments before. -/
theorem locate_concat_eq_ok_iff {name : String} (hname : IsName name) {front : List String} :
    tree.locate ⟨front ++ [name]⟩ = .ok location ↔
      (⟨front ++ [name]⟩ : Path).Fits ∧ name.utf8ByteSize ≤ nameLimit ∧
        ∃ directory, tree.LeadsTo front directory ∧ location = directory ++ [name] := by
  have hempty : (⟨front ++ [name]⟩ : Path).isEmpty = false := by
    cases front <;> simp [Path.isEmpty, hname.ne_empty]
  rw [locate_eq_ok_iff, start, isAbsolute_concat hname.ne_empty, follow_append_eq_ok_iff]
  simp only [hempty, true_and, decide_eq_true_iff, follow_cons_eq_ok_iff,
    step_name_eq_ok_iff hname, LeadsTo, follow_nil]
  refine and_congr_right fun _ => ⟨?_, ?_⟩
  · rintro ⟨directory, hfollow, next, ⟨hdirectory, hlimit, rfl⟩, hlast⟩
    exact ⟨hlimit, directory, ⟨hfollow, hdirectory⟩, (Except.ok.inj hlast).symm⟩
  · rintro ⟨hlimit, directory, ⟨hfollow, hdirectory⟩, rfl⟩
    exact ⟨directory, hfollow, _, ⟨hdirectory, hlimit, rfl⟩, rfl⟩

/-! ## Trees with the same directories -/

/-- The directories of one tree are directories of another. -/
structure KeepsDirectories (before after : FileTree) : Prop where
  current : after.current = before.current
  get? : ∀ {location : List String},
    before.get? location = some .directory → after.get? location = some .directory

namespace KeepsDirectories

variable {before middle after : FileTree}

theorem refl (tree : FileTree) : KeepsDirectories tree tree := ⟨rfl, id⟩

theorem trans (h : KeepsDirectories before middle) (h' : KeepsDirectories middle after) :
    KeepsDirectories before after :=
  ⟨h'.current.trans h.current, fun hdirectory => h'.get? (h.get? hdirectory)⟩

theorem step (h : KeepsDirectories before after) {segment : String} {next : List String}
    (hstep : before.step location segment = .ok next) :
    after.step location segment = .ok next := by
  have hdirectory := directory_of_step hstep
  rw [← hstep, FileTree.step, FileTree.step, hdirectory, h.get? hdirectory]

theorem follow (h : KeepsDirectories before after) {segments last : List String}
    (hfollow : before.follow location segments = .ok last) :
    after.follow location segments = .ok last := by
  induction segments generalizing location with
  | nil => exact hfollow
  | cons s rest ih =>
    obtain ⟨next, hstep, hrest⟩ := follow_cons_eq_ok_iff.mp hfollow
    exact follow_cons_eq_ok_iff.mpr ⟨next, h.step hstep, ih hrest⟩

/-- A path leads where it led, as long as the directories are there. -/
theorem locate (h : KeepsDirectories before after) {path : Path}
    (hlocate : before.locate path = .ok location) : after.locate path = .ok location := by
  obtain ⟨hempty, hfits, hfollow⟩ := locate_eq_ok_iff.mp hlocate
  rw [start, ← h.current] at hfollow
  exact locate_eq_ok_iff.mpr ⟨hempty, hfits, h.follow hfollow⟩

theorem kind (h : KeepsDirectories before after) {path : Path}
    (hkind : before.kind path = .ok .directory) : after.kind path = .ok .directory := by
  obtain ⟨location, hlocate, hdirectory⟩ := kind_eq_directory_iff.mp hkind
  exact kind_eq_directory_iff.mpr ⟨location, h.locate hlocate, h.get? hdirectory⟩

end KeepsDirectories

/-- Two trees with the same directories, which may hold different files. -/
structure SameDirectories (before after : FileTree) : Prop where
  forth : KeepsDirectories before after
  back : KeepsDirectories after before

namespace SameDirectories

variable {before middle after : FileTree}

theorem refl (tree : FileTree) : SameDirectories tree tree := ⟨.refl tree, .refl tree⟩

theorem trans (h : SameDirectories before middle) (h' : SameDirectories middle after) :
    SameDirectories before after :=
  ⟨h.forth.trans h'.forth, h'.back.trans h.back⟩

theorem locate_iff (h : SameDirectories before after) {path : Path} :
    after.locate path = .ok location ↔ before.locate path = .ok location :=
  ⟨h.back.locate, h.forth.locate⟩

theorem get?_iff (h : SameDirectories before after) :
    after.get? location = some .directory ↔ before.get? location = some .directory :=
  ⟨h.back.get?, h.forth.get?⟩

theorem kind_iff (h : SameDirectories before after) {path : Path} :
    after.kind path = .ok .directory ↔ before.kind path = .ok .directory :=
  ⟨h.back.kind, h.forth.kind⟩

end SameDirectories

/-! ## Operations on files -/

theorem ne_nil_of_get? (h : tree.get? location ≠ some .directory) : location ≠ [] := by
  rintro rfl
  exact h rfl

/-- Where no directory was and none is, files may differ. -/
theorem sameDirectories_of_get? {before after : FileTree}
    (hcurrent : after.current = before.current) (hbefore : before.get? location ≠ some .directory)
    (hafter : after.get? location ≠ some .directory)
    (hother : ∀ {other}, other ≠ location → after.get? other = before.get? other) :
    SameDirectories before after := by
  refine ⟨⟨hcurrent, fun {other} hdirectory => ?_⟩, ⟨hcurrent.symm, fun {other} hdirectory => ?_⟩⟩
  · rw [hother (by rintro rfl; exact hbefore hdirectory), hdirectory]
  · rw [← hother (by rintro rfl; exact hafter hdirectory), hdirectory]

theorem sameDirectories_set (h : tree.get? location ≠ some .directory) (bytes : ByteArray) :
    SameDirectories tree (tree.set location (.file bytes)) := by
  refine sameDirectories_of_get? rfl h ?_ (get?_set_of_ne tree _)
  simp [get?_set_self tree _ (ne_nil_of_get? h)]

theorem sameDirectories_erase (h : tree.get? location ≠ some .directory) :
    SameDirectories tree (tree.erase location) := by
  refine sameDirectories_of_get? rfl h ?_ (get?_erase_of_ne tree)
  simp [get?_erase_self tree (ne_nil_of_get? h)]

theorem write_eq_ok_iff {path : Path} {bytes : ByteArray} {changed : FileTree} :
    tree.write path bytes = .ok changed ↔
      ∃ location, tree.locate path = .ok location ∧ tree.get? location ≠ some .directory ∧
        changed = tree.set location (.file bytes) := by
  rw [write, Except.bind_eq_ok_iff]
  refine exists_congr fun location => and_congr_right fun _ => ?_
  split
  · next h => simp [h]
  · next h => exact ⟨fun hset => ⟨h, (Except.ok.inj hset).symm⟩, fun ⟨_, hset⟩ => hset ▸ rfl⟩

theorem remove_eq_ok_iff {path : Path} {changed : FileTree} :
    tree.remove path = .ok changed ↔
      ∃ location bytes, tree.locate path = .ok location ∧
        tree.get? location = some (.file bytes) ∧ changed = tree.erase location := by
  rw [remove, Except.bind_eq_ok_iff]
  refine exists_congr fun location => ?_
  cases h : tree.get? location with
  | none => simp
  | some entry => cases entry <;> simp [pure, Except.pure, eq_comm]

theorem read_eq_ok_iff {path : Path} {bytes : ByteArray} :
    tree.read path = .ok bytes ↔
      ∃ location, tree.locate path = .ok location ∧ tree.get? location = some (.file bytes) := by
  rw [← find_eq_ok_iff, read]
  cases tree.find path with
  | error fault => simp
  | ok entry => cases entry <;> simp [pure, Except.pure]

/-- A file is moved when its target is in a directory and is none itself. -/
theorem rename_eq_ok {source target : Path} {origin location : List String} {bytes : ByteArray}
    (horigin : tree.locate source = .ok origin) (hfile : tree.get? origin = some (.file bytes))
    (htarget : tree.locate target = .ok location) (h : tree.get? location ≠ some .directory) :
    tree.rename source target = .ok ((tree.erase origin).set location (.file bytes)) := by
  have hread : tree.read source = .ok bytes := read_eq_ok_iff.mpr ⟨origin, horigin, hfile⟩
  rw [rename, hread, horigin, htarget]
  simp only [Except.ok_bind]
  rfl

end FileTree

end FormScaffold
