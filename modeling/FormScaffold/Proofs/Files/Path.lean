import Mathlib.Data.List.DropRight
import Mathlib.Logic.Relation
import FormScaffold.Files.Path
import FormScaffold.Proofs.Text.Split

/-!
# Parents and siblings

The directory that a path is in comes from the front of the path, and what is left out of it names
something or nothing (`segments_of_parent?`).  Another file in the same directory has the same
directory in its path (`segments_sibling`).
-/

namespace FormScaffold.Path

/-! ## Segments at the end -/

/-- A segment that leads to an entry of the directory before it. -/
def IsName (segment : String) : Prop := isIdle segment = false ∧ segment ≠ ".."

theorem IsName.ne_empty {segment : String} (h : IsName segment) : segment ≠ "" := by
  rintro rfl
  exact absurd h.1 (by decide)

theorem dropIdle_cons (first : String) (rest : List String) :
    dropIdle (first :: rest) = first :: rest.rdropWhile isIdle := rfl

theorem dropIdle_ne_nil {segments : List String} (h : segments ≠ []) : dropIdle segments ≠ [] := by
  obtain ⟨first, rest, rfl⟩ := List.exists_cons_of_ne_nil h
  exact List.cons_ne_nil _ _

theorem dropIdle_concat {name : String} (h : isIdle name = false) (front : List String) :
    dropIdle (front ++ [name]) = front ++ [name] := by
  cases front with
  | nil => rfl
  | cons first rest =>
    rw [List.cons_append, dropIdle_cons, List.rdropWhile_concat_neg _ _ _ (by simp [h])]

theorem dropIdle_dropIdle (segments : List String) :
    dropIdle (dropIdle segments) = dropIdle segments := by
  cases segments with
  | nil => rfl
  | cons first rest => rw [dropIdle_cons, dropIdle_cons, List.rdropWhile_idempotent]

/-- What is dropped names nothing. -/
theorem exists_idle_append (segments : List String) :
    ∃ idle, (∀ s ∈ idle, isIdle s = true) ∧ segments = dropIdle segments ++ idle := by
  cases segments with
  | nil => exact ⟨[], by simp, rfl⟩
  | cons first rest =>
    refine ⟨rest.rtakeWhile isIdle, fun s hs => List.mem_rtakeWhile_imp hs, ?_⟩
    rw [dropIdle_cons, List.cons_append, List.rdropWhile_append_rtakeWhile]

/-- Segments that end in none that names nothing end in no slash, unless they are the root. -/
theorem getLast?_ne_of_dropIdle {segments : List String} (h : dropIdle segments = segments)
    (hroot : segments ≠ [""]) : segments.getLast? ≠ some "" := by
  cases segments with
  | nil => simp
  | cons first rest =>
    have hrest : rest.rdropWhile isIdle = rest := (List.cons.inj h).2
    cases hlast : rest.getLast? with
    | none =>
      obtain rfl := List.getLast?_eq_none_iff.mp hlast
      simpa using hroot
    | some last =>
      obtain ⟨hne, rfl⟩ := List.mem_getLast?_eq_getLast hlast
      have hidle := List.rdropWhile_eq_self_iff.mp hrest hne
      rw [List.getLast?_cons, hlast, Option.getD_some]
      intro hempty
      exact hidle (Option.some.inj hempty ▸ by decide)

/-! ## Parents -/

theorem parent?_of_isEmpty {path : Path} (h : path.isEmpty = true) : path.parent? = none := by
  obtain ⟨segments⟩ := path
  have hsegments : segments = [""] ∨ segments = [] := by simpa [isEmpty] using h
  rcases hsegments with rfl | rfl <;> rfl

/-- The directory that a path is in is where the front of the path leads. -/
theorem segments_of_parent? {path parent : Path} (h : path.parent? = some parent) :
    parent = ⟨[""]⟩ ∨
      ∃ front back, path.segments = front ++ back ∧ front ≠ [] ∧ back ≠ [] ∧
        dropIdle front = front ∧ parent = ofDirectory front := by
  rw [parent?] at h
  split at h
  · exact absurd h (by simp)
  · exact absurd h (by simp)
  · exact .inl (Option.some.inj h).symm
  · next first rest _ hrest hsegments =>
    obtain ⟨idle, -, hpath⟩ := exists_idle_append path.segments
    obtain ⟨inner, -, hinner⟩ := exists_idle_append (first :: rest.dropLast)
    have hne : rest ≠ [] := hrest
    refine .inr ⟨dropIdle (first :: rest.dropLast), inner ++ rest.getLast hne :: idle, ?_,
      dropIdle_ne_nil (List.cons_ne_nil _ _), by simp, dropIdle_dropIdle _,
      (Option.some.inj h).symm⟩
    rw [hpath, hsegments, ← List.append_assoc, ← hinner, List.cons_append, List.cons_append,
      List.append_cons, List.dropLast_append_getLast hne]

/-- A path that ends in a name is in the directory of the segments before. -/
theorem parent?_concat {name : String} (h : isIdle name = false) {front : List String}
    (hne : front ≠ []) :
    (⟨front ++ [name]⟩ : Path).parent? = some (ofDirectory (dropIdle front)) := by
  obtain ⟨first, rest, rfl⟩ := List.exists_cons_of_ne_nil hne
  rw [parent?, dropIdle_concat h, List.cons_append]
  cases hback : rest ++ [name] with
  | nil => exact absurd hback (by simp)
  | cons second tail =>
    have hrest : (second :: tail).dropLast = rest := by rw [← hback, List.dropLast_concat]
    simp only [hrest]

theorem fileName?_concat {name : String} (h : IsName name) (front : List String) :
    (⟨front ++ [name]⟩ : Path).fileName? = some name := by
  rw [fileName?, dropIdle_concat h.1, List.getLast?_concat]
  obtain ⟨hidle, hdots⟩ := h
  split
  · simp_all
  · simp_all [isIdle]
  · simp_all [isIdle]
  · simp_all
  · simp_all

/-- No segment at the end of a directory is lost when a name is joined to it. -/
theorem join_ofDirectory {front : List String} (h : dropIdle front = front) (name : String) :
    (ofDirectory front).join ⟨[name]⟩ = ⟨front ++ [name]⟩ := by
  by_cases hroot : front = [""]
  · subst hroot
    simp [ofDirectory, join, isAbsolute, dropSlash]
  · rw [ofDirectory, if_neg hroot, join, if_neg (by simp [isAbsolute]), dropSlash,
      if_neg (getLast?_ne_of_dropIdle h hroot)]

/-- The path of a file beside one that has a name. -/
theorem sibling_concat {name : String} (h : isIdle name = false) (front : List String)
    (other : String) :
    (⟨front ++ [name]⟩ : Path).sibling other = ⟨dropIdle front ++ [other]⟩ := by
  cases front with
  | nil =>
    have hparent : (⟨[] ++ [name]⟩ : Path).parent? = some ⟨[""]⟩ := by
      rw [parent?, List.nil_append, dropIdle]
      split <;> simp_all [isIdle]
    rw [sibling, hparent]
    simp [join, isAbsolute, dropSlash, dropIdle]
  | cons first rest =>
    rw [sibling, parent?_concat h (List.cons_ne_nil _ _), Option.getD_some,
      join_ofDirectory (dropIdle_dropIdle _)]

/-! ## Names joined to a directory -/

/-- The segments of a directory in front of the names of what is in it. -/
def base (directory : Path) : List String := dropSlash directory.segments

theorem foldl_join {names : List String} (hnames : ∀ s ∈ names, IsName s)
    (hne : names ≠ []) (directory : Path) :
    names.foldl (fun path name => path.join ⟨[name]⟩) directory = ⟨directory.base ++ names⟩ := by
  induction names generalizing directory with
  | nil => exact absurd rfl hne
  | cons s rest ih =>
    have hjoin : directory.join ⟨[s]⟩ = ⟨directory.base ++ [s]⟩ := by
      rw [join, if_neg (by simp [isAbsolute]), base]
    rw [List.foldl_cons, hjoin]
    cases rest with
    | nil => rfl
    | cons t rest =>
      have hbase : base ⟨directory.base ++ [s]⟩ = directory.base ++ [s] := by
        have hs := (hnames s List.mem_cons_self).ne_empty
        simp [base, dropSlash, hs]
      rw [ih (fun u hu => hnames u (List.mem_cons_of_mem s hu)) (List.cons_ne_nil t rest), hbase,
        List.append_assoc]
      rfl

/-! ## Directories above a path -/

/-- A directory is above a path if the path is in it, or in a directory that it is above. -/
def IsAbove (directory path : Path) : Prop :=
  Relation.TransGen (fun path parent : Path => path.parent? = some parent) path directory

/-- A parent that has a parent itself has fewer segments. -/
theorem length_lt_of_parent? {path parent above : Path} (h : path.parent? = some parent)
    (hparent : parent.parent? = some above) : parent.segments.length < path.segments.length := by
  rcases segments_of_parent? h with rfl | ⟨front, back, hpath, -, hback, -, rfl⟩
  · exact absurd hparent (by simp [parent?, dropIdle])
  · by_cases hroot : front = [""]
    · subst hroot
      exact absurd hparent (by simp [parent?, ofDirectory, dropIdle, isIdle])
    · have hlength := List.length_pos_iff.mpr hback
      rw [ofDirectory, if_neg hroot, hpath, List.length_append]
      exact Nat.lt_add_of_pos_right hlength

theorem mem_ancestorsUpTo_of_isAbove {path directory : Path} {count : Nat}
    (h : directory.IsAbove path) (hcount : path.segments.length ≤ count) :
    directory ∈ path.ancestorsUpTo count := by
  induction count generalizing path with
  | zero =>
    obtain ⟨parent, hparent, -⟩ := Relation.TransGen.head'_iff.mp h
    have hnil : path.segments = [] := List.eq_nil_of_length_eq_zero (Nat.le_zero.mp hcount)
    exact absurd hparent (by simp [parent?, dropIdle, hnil])
  | succ count ih =>
    obtain ⟨parent, hparent, hrest⟩ := Relation.TransGen.head'_iff.mp h
    rw [ancestorsUpTo, hparent]
    rcases Relation.reflTransGen_iff_eq_or_transGen.mp hrest with rfl | habove
    · exact List.mem_cons_self
    · obtain ⟨above, hparent', -⟩ := Relation.TransGen.head'_iff.mp habove
      have hlength := length_lt_of_parent? hparent hparent'
      exact List.mem_cons_of_mem parent (ih habove (by omega))

theorem isAbove_of_mem_ancestorsUpTo {path directory : Path} {count : Nat}
    (h : directory ∈ path.ancestorsUpTo count) : directory.IsAbove path := by
  induction count generalizing path with
  | zero => exact absurd h List.not_mem_nil
  | succ count ih =>
    rw [ancestorsUpTo] at h
    split at h
    · exact absurd h List.not_mem_nil
    · next parent hparent =>
      rcases List.mem_cons.mp h with rfl | h
      · exact .single hparent
      · exact .head hparent (ih h)

/-- The ancestors of a path are the directories above it. -/
theorem mem_ancestors_iff {path directory : Path} :
    directory ∈ path.ancestors ↔ directory.IsAbove path :=
  ⟨isAbove_of_mem_ancestorsUpTo, fun h => mem_ancestorsUpTo_of_isAbove h le_rfl⟩

/-! ## Texts of paths -/

/-- How many bytes segments take with a slash behind each. -/
def weight : List String → Nat
  | [] => 0
  | s :: segments => s.utf8ByteSize + 1 + weight segments

@[simp] theorem weight_nil : weight [] = 0 := rfl

@[simp] theorem weight_cons (s : String) (segments : List String) :
    weight (s :: segments) = s.utf8ByteSize + 1 + weight segments := rfl

@[simp] theorem weight_append (front back : List String) :
    weight (front ++ back) = weight front + weight back := by
  induction front with
  | nil => simp
  | cons s front ih => rw [List.cons_append, weight_cons, weight_cons, ih, ← Nat.add_assoc]

theorem utf8ByteSize_intercalate {segments : List String} (h : segments ≠ []) :
    ("/".intercalate segments).utf8ByteSize + 1 = weight segments := by
  induction segments with
  | nil => exact absurd rfl h
  | cons s rest ih =>
    cases rest with
    | nil => simp
    | cons t rest =>
      have hslash : "/".utf8ByteSize = 1 := rfl
      rw [String.intercalate_cons_cons, String.utf8ByteSize_append, String.utf8ByteSize_append,
        weight_cons, ← ih (List.cons_ne_nil _ _), hslash]
      omega

theorem zero_mem_text_iff (path : Path) :
    '\x00' ∈ path.text.toList ↔ ∃ s ∈ path.segments, '\x00' ∈ s.toList := by
  rw [text, String.toList_intercalate]
  constructor
  · intro h
    rcases Text.mem_intercalate h with hslash | ⟨piece, hpiece, hzero⟩
    · exact absurd (List.mem_singleton.mp hslash) (by decide)
    · obtain ⟨s, hs, rfl⟩ := List.mem_map.mp hpiece
      exact ⟨s, hs, hzero⟩
  · rintro ⟨s, hs, hzero⟩
    exact (Text.isInfix_intercalate (List.mem_map_of_mem hs)).subset hzero

end FormScaffold.Path
