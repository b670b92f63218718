import FormScaffold.Proofs.Files.Tree

/-!
# Runs on a tree, and directories that are made

What a program does with files is run on a tree step by step.  Making a directory with all those
above it adds directories at the paths above, whether it ends well or not, and nothing else
(`growsBy_makeDirectories`).
-/

namespace FormScaffold.FileTree

/-! ## Runs -/

section

variable {α β : Type} (tree : FileTree) (path : Path)

theorem run_pure (a : α) : (pure a : StateM FileTree α).run tree = (a, tree) := rfl

theorem run_bind (x : StateM FileTree α) (f : α → StateM FileTree β) :
    (x >>= f).run tree = (f (x.run tree).1).run (x.run tree).2 := rfl

theorem run_kind :
    (FileAccess.kind path : StateM FileTree _).run tree = (tree.kind path, tree) := rfl

theorem run_makeDirectory :
    (FileAccess.makeDirectory path : StateM FileTree _).run tree =
      match tree.makeDirectory path with
      | .ok changed => (.ok (), changed)
      | .error fault => (.error fault, tree) := rfl

theorem run_write (bytes : ByteArray) :
    (FileAccess.write path bytes : StateM FileTree _).run tree =
      match tree.write path bytes with
      | .ok changed => (.ok (), changed)
      | .error fault => (.error fault, tree) := rfl

theorem run_remove :
    (FileAccess.remove path : StateM FileTree _).run tree =
      match tree.remove path with
      | .ok changed => (.ok (), changed)
      | .error fault => (.error fault, tree) := rfl

theorem run_rename (source target : Path) :
    (FileAccess.rename source target : StateM FileTree _).run tree =
      match tree.rename source target with
      | .ok changed => (.ok (), changed)
      | .error fault => (.error fault, tree) := rfl

theorem run_isDirectory :
    (FileAccess.isDirectory path : StateM FileTree _).run tree =
      (decide (tree.kind path = .ok .directory), tree) := by
  simp only [FileAccess.isDirectory, run_bind, run_kind]
  split
  · next h => simp only [run_pure, h, decide_true]
  · next h => simp only [run_pure, decide_eq_false h]

/-- Whether something is there is asked without a change. -/
theorem run_isPresent :
    ∃ present, (FileAccess.isPresent path : StateM FileTree _).run tree = (present, tree) := by
  simp only [FileAccess.isPresent, run_bind, run_kind]
  split
  · exact ⟨true, rfl⟩
  · exact ⟨false, rfl⟩

theorem run_ensureDirectory :
    (FileAccess.ensureDirectory path : StateM FileTree _).run tree =
      match tree.makeDirectory path with
      | .ok changed => (.ok (), changed)
      | .error fault =>
        (if tree.kind path = .ok .directory then .ok () else .error fault, tree) := by
  simp only [FileAccess.ensureDirectory, run_bind, run_makeDirectory]
  cases tree.makeDirectory path with
  | ok changed => rfl
  | error fault =>
    simp only [run_bind, run_isDirectory, decide_eq_true_iff]
    split <;> rfl

end

/-! ## Growth -/

/-- Nothing has changed but for new directories at some paths. -/
structure GrowsBy (P : Path → Prop) (before after : FileTree) : Prop where
  current : after.current = before.current
  get? : ∀ location : List String, after.get? location = before.get? location ∨
    before.get? location = none ∧ after.get? location = some .directory ∧
      ∃ path, P path ∧ after.locate path = .ok location

namespace GrowsBy

variable {P Q : Path → Prop} {before middle after : FileTree}

theorem refl (P : Path → Prop) (tree : FileTree) : GrowsBy P tree tree := ⟨rfl, fun _ => .inl rfl⟩

theorem keepsDirectories (h : GrowsBy P before after) : KeepsDirectories before after := by
  refine ⟨h.current, fun {location} hdirectory => ?_⟩
  rcases h.get? location with hsame | ⟨hnone, -, -⟩
  · rw [hsame, hdirectory]
  · exact absurd (hnone.symm.trans hdirectory) (by simp)

theorem trans (h : GrowsBy P before middle) (h' : GrowsBy P middle after) :
    GrowsBy P before after := by
  refine ⟨h'.current.trans h.current, fun location => ?_⟩
  rcases h.get? location with hsame | ⟨hnone, hdirectory, path, hpath, hlocate⟩
  · rw [← hsame]
    exact h'.get? location
  · exact .inr ⟨hnone, h'.keepsDirectories.get? hdirectory, path, hpath,
      h'.keepsDirectories.locate hlocate⟩

theorem mono (h : GrowsBy P before after) (hPQ : ∀ path, P path → Q path) :
    GrowsBy Q before after :=
  ⟨h.current, fun location => (h.get? location).imp_right
    fun ⟨hnone, hdirectory, path, hpath, hlocate⟩ =>
      ⟨hnone, hdirectory, path, hPQ path hpath, hlocate⟩⟩

/-- A directory is made where its path leads. -/
theorem set {tree : FileTree} {path : Path} {location : List String} (hpath : P path)
    (hlocate : tree.locate path = .ok location) (hnone : tree.get? location = none) :
    GrowsBy P tree (tree.set location .directory) := by
  have hne : location ≠ [] := by
    rintro rfl
    exact absurd hnone (by simp)
  have hself := get?_set_self tree .directory hne
  have hkeeps : KeepsDirectories tree (tree.set location .directory) := by
    refine ⟨rfl, fun {other} hother => ?_⟩
    by_cases hsame : other = location
    · rw [hsame, hself]
    · rw [get?_set_of_ne tree _ hsame, hother]
  refine ⟨rfl, fun other => ?_⟩
  by_cases hsame : other = location
  · subst hsame
    exact .inr ⟨hnone, hself, path, hpath, hkeeps.locate hlocate⟩
  · exact .inl (get?_set_of_ne tree _ hsame)

end GrowsBy

/-! ## Making directories -/

variable {tree : FileTree}

/-- The path of a directory that another path is in ends in no slash, so the directory is made
where its path leads. -/
theorem makeDirectory_eq_ok {path child : Path} (hchild : child.parent? = some path)
    (hne : path.isEmpty = false) {changed : FileTree}
    (h : tree.makeDirectory path = .ok changed) :
    ∃ location, tree.locate path = .ok location ∧ tree.get? location = none ∧
      changed = tree.set location .directory := by
  have hsegments : (path.segments.rdropWhile (· = "") = path.segments) ∨
      path.segments.rdropWhile (· = "") = [] := by
    rcases Path.segments_of_parent? hchild with rfl | ⟨front, -, -, -, -, hfront, rfl⟩
    · exact .inr rfl
    · by_cases hroot : front = [""]
      · subst hroot
        exact .inr rfl
      · rw [Path.ofDirectory, if_neg hroot]
        refine .inl (List.rdropWhile_eq_self_iff.mpr fun hnil hlast => ?_)
        refine Path.getLast?_ne_of_dropIdle hfront hroot ?_
        rw [List.getLast?_eq_some_getLast hnil, of_decide_eq_true hlast]
  have htrimmed : (if (path.segments.rdropWhile (· = "")).isEmpty then path
      else ⟨path.segments.rdropWhile (· = "")⟩) = path := by
    rcases hsegments with h | h
    · rw [h]
      exact ite_self path
    · rw [h]
      rfl
  rw [makeDirectory] at h
  change (tree.locate (if (path.segments.rdropWhile (· = "")).isEmpty then path
      else ⟨path.segments.rdropWhile (· = "")⟩) >>= _) = _ at h
  rw [htrimmed] at h
  obtain ⟨location, hlocate, h⟩ := Except.bind_eq_ok_iff.mp h
  cases hentry : tree.get? location with
  | none =>
    rw [hentry] at h
    exact ⟨location, hlocate, hentry, (Except.ok.inj h).symm⟩
  | some entry =>
    rw [hentry] at h
    exact absurd h (by simp)

theorem growsBy_ensureDirectory {P : Path → Prop} {path child : Path} (hpath : P path)
    (hchild : child.parent? = some path) (hne : path.isEmpty = false) (tree : FileTree) :
    GrowsBy P tree ((FileAccess.ensureDirectory path : StateM FileTree _).run tree).2 := by
  rw [run_ensureDirectory]
  cases h : tree.makeDirectory path with
  | error fault => exact .refl P tree
  | ok changed =>
    obtain ⟨location, hlocate, hnone, rfl⟩ := makeDirectory_eq_ok hchild hne h
    exact .set hpath hlocate hnone

theorem growsBy_makeDirectoryBelow_nil {P : Path → Prop} {path child : Path} (hpath : P path)
    (hchild : child.parent? = some path) (tree : FileTree) :
    GrowsBy P tree ((FileAccess.makeDirectoryBelow path [] : StateM FileTree _).run tree).2 := by
  rw [FileAccess.makeDirectoryBelow]
  split
  · exact .refl P tree
  · next hne => exact growsBy_ensureDirectory hpath hchild (by simpa using hne) tree

theorem growsBy_makeDirectoryBelow {P : Path → Prop}
    (habove : ∀ path parent : Path, P path → path.parent? = some parent → P parent)
    {path child : Path} (hpath : P path) (hchild : child.parent? = some path) (count : Nat)
    (tree : FileTree) :
    GrowsBy P tree ((FileAccess.makeDirectoryBelow path (path.ancestorsUpTo count) :
      StateM FileTree _).run tree).2 := by
  induction count generalizing path child tree with
  | zero => exact growsBy_makeDirectoryBelow_nil hpath hchild tree
  | succ count ih =>
    rw [Path.ancestorsUpTo]
    split
    · exact growsBy_makeDirectoryBelow_nil hpath hchild tree
    · next parent hparent =>
      rw [FileAccess.makeDirectoryBelow]
      split
      · exact .refl P tree
      · next hne =>
        have hne : path.isEmpty = false := by simpa using hne
        rw [run_bind]
        have hfirst := growsBy_ensureDirectory hpath hchild hne tree
        -- The directories above are made only when the first attempt finds that one is missing.
        split
        · rw [run_bind]
          refine hfirst.trans ((ih (habove path parent hpath hparent) hparent _).trans ?_)
          split
          · exact growsBy_ensureDirectory hpath hchild hne _
          · exact .refl P _
        · exact hfirst

/-- Making the directory of a path, with all directories above it, adds only such directories. -/
theorem growsBy_makeDirectories {path parent : Path} (h : path.parent? = some parent)
    (tree : FileTree) :
    GrowsBy (·.IsAbove path) tree
      ((FileAccess.makeDirectories parent : StateM FileTree _).run tree).2 :=
  growsBy_makeDirectoryBelow (fun _ _ habove hparent => .tail habove hparent) (.single h) h _ tree

/-! ## Directories that are there -/

theorem run_ensureDirectory_of_find {path child : Path} (hchild : child.parent? = some path)
    (hne : path.isEmpty = false) (h : tree.find path = .ok .directory) :
    (FileAccess.ensureDirectory path : StateM FileTree _).run tree = (.ok (), tree) := by
  obtain ⟨location, hlocate, hdirectory⟩ := find_eq_ok_iff.mp h
  rw [run_ensureDirectory]
  cases hmake : tree.makeDirectory path with
  | ok changed =>
    obtain ⟨place, hplace, hnone, -⟩ := makeDirectory_eq_ok hchild hne hmake
    obtain rfl := Except.ok.inj (hlocate.symm.trans hplace)
    exact absurd (hnone.symm.trans hdirectory) (by simp)
  | error fault =>
    dsimp only
    rw [if_pos (kind_eq_directory_iff.mpr ⟨location, hlocate, hdirectory⟩)]

/-- Where a path leads, its directory need not be made. -/
theorem run_makeDirectories_of_locate {path parent : Path} {location : List String}
    (h : path.parent? = some parent) (hlocate : tree.locate path = .ok location) :
    (FileAccess.makeDirectories parent : StateM FileTree _).run tree = (.ok (), tree) := by
  rw [FileAccess.makeDirectories]
  cases hempty : parent.isEmpty with
  | true =>
    cases parent.ancestors <;> rw [FileAccess.makeDirectoryBelow, if_pos hempty] <;> rfl
  | false =>
    have hne : ¬ parent.isEmpty = true := by simp [hempty]
    have hensure := run_ensureDirectory_of_find h hempty (find_of_parent? hlocate h hempty)
    cases parent.ancestors with
    | nil =>
      rw [FileAccess.makeDirectoryBelow, if_neg hne]
      exact hensure
    | cons above rest =>
      rw [FileAccess.makeDirectoryBelow, if_neg hne, run_bind, hensure]
      rfl

end FormScaffold.FileTree
