import FormScaffold.Naming
import FormScaffold.Proofs.Form.Valid
import FormScaffold.Proofs.Text.Split

/-!
# Paths and the imports between them

A specifier is resolved against the directory of the file that holds it, segment by segment.  The
specifier that is derived from two paths resolves to the second one without its extension
(`resolveImport_relativeImport`), whatever directories the two have in common.
-/

namespace FormScaffold

open Text (split)

/-! ## Segments of a path -/

theorem pathSegments_ne_nil (path : String) : pathSegments path ≠ [] := by
  rw [pathSegments, ne_eq, List.map_eq_nil_iff]
  exact Text.split_ne_nil _

theorem slash_notMem_of_mem_pathSegments {path s : String} (h : s ∈ pathSegments path) :
    '/' ∉ s.toList := by
  obtain ⟨piece, hpiece, rfl⟩ := List.mem_map.mp h
  rw [String.toList_ofList]
  intro hslash
  exact absurd (Text.mem_of_mem_split hpiece hslash).2 (by decide)

theorem mem_of_mem_pathSegments {path s : String} (h : s ∈ pathSegments path) {c : Char}
    (hc : c ∈ s.toList) : c ∈ path.toList := by
  obtain ⟨piece, hpiece, rfl⟩ := List.mem_map.mp h
  rw [String.toList_ofList] at hc
  exact (Text.mem_of_mem_split hpiece hc).1

/-- Segments that are joined with slashes come back. -/
theorem pathSegments_intercalate {segments : List String} (hne : segments ≠ [])
    (h : ∀ s ∈ segments, '/' ∉ s.toList) : pathSegments ("/".intercalate segments) = segments := by
  have hslash : ∀ p ∈ segments.map String.toList, '/' ∉ p := by
    intro p hp
    obtain ⟨s, hs, rfl⟩ := List.mem_map.mp hp
    exact h s hs
  rw [pathSegments, String.toList_intercalate, show "/".toList = ['/'] from rfl,
    Text.split_intercalate (by simpa using hne) hslash]
  simp

/-! ## Extensions -/

/-- The stem of a file name ends before its last dot. -/
theorem dropExtension_append {stem extension : String} (h : '.' ∉ extension.toList) :
    dropExtension (stem ++ "." ++ extension) = stem := by
  have hext : ∀ c ∈ extension.toList, decide (c = '.') = false := fun c hc =>
    decide_eq_false fun hdot => h (hdot ▸ hc)
  have hcut : Text.cutLast (· = '.') (stem ++ "." ++ extension).toList =
      some (stem.toList, extension.toList) := by
    rw [String.toList_append, String.toList_append, List.append_assoc]
    exact Text.cutLast_append_cons rfl hext _
  rw [dropExtension, hcut]
  simp

theorem mem_of_mem_dropExtension {name : String} {c : Char} (h : c ∈ (dropExtension name).toList) :
    c ∈ name.toList := by
  rw [dropExtension] at h
  split at h
  · next stem rest hcut =>
    rw [String.toList_ofList] at h
    obtain ⟨dot, hname⟩ := Text.eq_append_of_cutLast hcut
    rw [hname]
    exact List.mem_append_left _ h
  · exact h

/-- The segments of a path whose file name has lost its last extension. -/
def moduleSegments (path : String) : List String :=
  (pathSegments path).dropLast ++ [dropExtension ((pathSegments path).getLastD "")]

/-! ## Resolving -/

/-- Where segments lead from a directory, unless they climb above the root: a dot stays, two dots
leave the last directory. -/
def resolveSegments (dirs : List String) : List String → Option (List String)
  | [] => some dirs
  | s :: rest =>
    if s = "." then resolveSegments dirs rest
    else if s = ".." then
      if dirs = [] then none else resolveSegments dirs.dropLast rest
    else resolveSegments (dirs ++ [s]) rest

/-- What a specifier refers to in a file. -/
def resolveImport (file specifier : String) : Option (List String) :=
  resolveSegments (pathSegments file).dropLast (pathSegments specifier)

/-- A segment that names something. -/
def NamesSegment (s : String) : Prop := s ≠ "." ∧ s ≠ ".."

theorem resolveSegments_names {segments : List String} (h : ∀ s ∈ segments, NamesSegment s)
    (dirs : List String) : resolveSegments dirs segments = some (dirs ++ segments) := by
  induction segments generalizing dirs with
  | nil => simp [resolveSegments]
  | cons s rest ih =>
    obtain ⟨hdot, hdots⟩ := h s List.mem_cons_self
    rw [resolveSegments, if_neg hdot, if_neg hdots,
      ih fun t ht => h t (List.mem_cons_of_mem s ht)]
    simp

/-- Steps up leave the last directories, one each. -/
theorem resolveSegments_ups {ups : Nat} {dirs : List String} (h : ups ≤ dirs.length)
    (rest : List String) :
    resolveSegments dirs (List.replicate ups ".." ++ rest) =
      resolveSegments (dirs.take (dirs.length - ups)) rest := by
  induction ups generalizing dirs with
  | zero => simp
  | succ ups ih =>
    have hne : dirs ≠ [] := List.ne_nil_of_length_pos (Nat.lt_of_lt_of_le ups.succ_pos h)
    have hlen : dirs.dropLast.length = dirs.length - 1 := List.length_dropLast
    rw [List.replicate_succ, List.cons_append, resolveSegments, if_neg (by decide), if_pos rfl,
      if_neg hne, ih (by omega), hlen, List.dropLast_eq_take, List.take_take]
    congr 2
    omega

theorem commonLength_le (as bs : List String) :
    commonLength as bs ≤ as.length ∧ as.take (commonLength as bs) = bs.take (commonLength as bs) := by
  fun_induction commonLength as bs with
  | case1 a as bs ih => simpa using ih
  | case2 a as b bs hne => simp
  | case3 as bs hne => simp

/-- Up to the last common directory, and down to the file. -/
theorem resolveSegments_relativeSegments {fromDirs toDirs : List String} {toName : String}
    (hdirs : ∀ s ∈ toDirs, NamesSegment s) (hname : NamesSegment (dropExtension toName)) :
    resolveSegments fromDirs (relativeSegments fromDirs toDirs toName) =
      some (toDirs ++ [dropExtension toName]) := by
  obtain ⟨hle, htake⟩ := commonLength_le fromDirs toDirs
  have hdown : ∀ s ∈ toDirs.drop (commonLength fromDirs toDirs) ++ [dropExtension toName],
      NamesSegment s := by
    intro s hs
    rcases List.mem_append.mp hs with hs | hs
    · exact hdirs s (List.mem_of_mem_drop hs)
    · rw [List.mem_singleton.mp hs]
      exact hname
  have hjoin : fromDirs.take (commonLength fromDirs toDirs) ++
      toDirs.drop (commonLength fromDirs toDirs) = toDirs := by
    rw [htake, List.take_append_drop]
  simp only [relativeSegments, List.append_assoc]
  split
  · next hzero =>
    have hall : fromDirs.take (commonLength fromDirs toDirs) = fromDirs :=
      List.take_of_length_le (by omega)
    rw [hall] at hjoin
    rw [List.singleton_append, resolveSegments, if_pos rfl, resolveSegments_names hdown,
      ← List.append_assoc, hjoin]
  · rw [resolveSegments_ups (Nat.sub_le _ _), Nat.sub_sub_self hle, resolveSegments_names hdown,
      ← List.append_assoc, hjoin]

/-! ## Derived specifiers -/

/-- A segment of a derived specifier is made of dots, or comes from the path of the target. -/
theorem mem_relativeSegments {fromDirs : List String} {target s : String}
    (h : s ∈ relativeSegments fromDirs (pathSegments target).dropLast
      ((pathSegments target).getLastD "")) :
    s = "." ∨ s = ".." ∨ ∃ t ∈ pathSegments target, ∀ c ∈ s.toList, c ∈ t.toList := by
  simp only [relativeSegments, List.append_assoc] at h
  rcases List.mem_append.mp h with h | h
  · split at h
    · exact .inl (List.mem_singleton.mp h)
    · exact .inr (.inl (List.eq_of_mem_replicate h))
  · rcases List.mem_append.mp h with h | h
    · exact .inr (.inr ⟨s, List.dropLast_subset _ (List.mem_of_mem_drop h), fun _ hc => hc⟩)
    · have hne := pathSegments_ne_nil target
      refine .inr (.inr ⟨(pathSegments target).getLastD "", ?_, ?_⟩)
      · rw [List.getLastD_eq_getLast?, List.getLast?_eq_some_getLast hne, Option.getD_some]
        exact List.getLast_mem hne
      · rw [List.mem_singleton.mp h]
        exact fun c hc => mem_of_mem_dropExtension hc

theorem pathSegments_relativeImport (file target : String) :
    pathSegments (relativeImport file target) =
      relativeSegments (pathSegments file).dropLast (pathSegments target).dropLast
        ((pathSegments target).getLastD "") := by
  refine pathSegments_intercalate (by simp [relativeSegments]) fun s hs => ?_
  rcases mem_relativeSegments hs with rfl | rfl | ⟨t, ht, hchars⟩
  · decide
  · decide
  · exact fun hslash => slash_notMem_of_mem_pathSegments ht (hchars _ hslash)

/-- A derived specifier leads from the file that holds it to the file that it is derived from. -/
theorem resolveImport_relativeImport {target : String}
    (h : ∀ s ∈ moduleSegments target, NamesSegment s) (file : String) :
    resolveImport file (relativeImport file target) = some (moduleSegments target) := by
  rw [resolveImport, pathSegments_relativeImport]
  exact resolveSegments_relativeSegments (fun s hs => h s (List.mem_append_left _ hs))
    (h _ (List.mem_append_right _ (List.mem_singleton_self _)))

/-- The characters of a derived specifier are slashes, dots and characters of the target's path. -/
theorem mem_toList_relativeImport {file target : String} {c : Char}
    (h : c ∈ (relativeImport file target).toList) : c = '/' ∨ c = '.' ∨ c ∈ target.toList := by
  rw [relativeImport, String.toList_intercalate] at h
  rcases Text.mem_intercalate h with hslash | ⟨piece, hpiece, hc⟩
  · exact .inl (List.mem_singleton.mp hslash)
  · obtain ⟨s, hs, rfl⟩ := List.mem_map.mp hpiece
    rcases mem_relativeSegments hs with rfl | rfl | ⟨t, ht, hchars⟩
    · exact .inr (.inl (List.mem_singleton.mp hc))
    · refine .inr (.inl ?_)
      simpa using hc
    · exact .inr (.inr (mem_of_mem_pathSegments ht (hchars c hc)))

/-! ## The paths of the artifacts -/

namespace Naming

/-- The directories of an artifact. -/
def directory (names : Naming) : Role → List String
  | .component | .serverAction => [names.routing.name]
  | .apiRoute =>
    match names.routing with
    | .app => ["app", "api", names.form]
    | .pages => ["pages", "api"]
  | .databaseClient => ["lib"]
  | .schema | .snapshot => []

/-- The name of an artifact's file, without its extension. -/
def stem (names : Naming) : Role → String
  | .component => names.form
  | .schema => names.form ++ "Schema"
  | .serverAction => names.form ++ "Action"
  | .apiRoute =>
    match names.routing with
    | .app => "route"
    | .pages => names.form
  | .databaseClient => "mongodb"
  | .snapshot => names.form ++ "Config"

/-- The extension of an artifact's file. -/
def extension : Role → String
  | .component => "tsx"
  | .snapshot => "json"
  | _ => "ts"

theorem path_eq_intercalate (names : Naming) (role : Role) :
    names.path role =
      "/".intercalate (names.directory role ++ [names.stem role ++ "." ++ extension role]) := by
  obtain ⟨form, routing⟩ := names
  apply String.toList_injective
  cases role <;> cases routing <;>
    simp [path, directory, stem, extension, Routing.name, String.intercalate_cons_cons]

variable {names : Naming}

/-- Directories and stems are made of the characters of identifiers. -/
theorem all_continuesIdentifier (h : isIdentifier names.form = true) {role : Role} {s : String}
    (hs : s ∈ names.directory role ++ [names.stem role]) :
    s.toList.all continuesIdentifier = true := by
  have hform : names.form.toList.all continuesIdentifier = true :=
    List.all_eq_true.mpr (continuesIdentifier_of_mem h)
  obtain ⟨form, routing⟩ := names
  have hsuffix (suffix : String) (hsuffix : suffix.toList.all continuesIdentifier = true) :
      (form ++ suffix).toList.all continuesIdentifier = true := by
    rw [String.toList_append, List.all_append, hform, hsuffix, Bool.and_self]
  cases role <;> cases routing <;>
    simp only [directory, stem, List.nil_append, List.cons_append, List.mem_cons, List.not_mem_nil,
      or_false] at hs
  all_goals
    rcases hs with rfl | rfl | rfl | rfl
  all_goals first
    | exact hform
    | decide
    | exact hsuffix _ (by decide)

/-- A text of such characters names something. -/
theorem namesSegment_of_all {s : String} (h : s.toList.all continuesIdentifier = true) :
    NamesSegment s := by
  constructor <;> rintro rfl <;> exact absurd h (by decide)

theorem slash_notMem_of_all {s : String} (h : s.toList.all continuesIdentifier = true) :
    '/' ∉ s.toList := fun hc => absurd (List.all_eq_true.mp h _ hc) (by decide)

theorem pathSegments_path (h : isIdentifier names.form = true) (role : Role) :
    pathSegments (names.path role) =
      names.directory role ++ [names.stem role ++ "." ++ extension role] := by
  rw [path_eq_intercalate]
  refine pathSegments_intercalate (by simp) fun s hs => ?_
  rcases List.mem_append.mp hs with hs | hs
  · exact slash_notMem_of_all (all_continuesIdentifier h (List.mem_append_left _ hs))
  · have hstem : '/' ∉ (names.stem role).toList :=
      slash_notMem_of_all (all_continuesIdentifier h
        (List.mem_append_right _ (List.mem_singleton_self _)))
    rw [List.mem_singleton.mp hs, String.toList_append, String.toList_append]
    have hextension : '/' ∉ (extension role).toList := by cases role <;> decide
    simp [hstem, hextension]

theorem moduleSegments_path (h : isIdentifier names.form = true) (role : Role) :
    moduleSegments (names.path role) = names.directory role ++ [names.stem role] := by
  have hextension : '.' ∉ (extension role).toList := by cases role <;> decide
  rw [moduleSegments, pathSegments_path h, List.dropLast_concat, List.getLastD_concat,
    dropExtension_append hextension]

/-- The specifier of an import leads to the artifact that is imported. -/
theorem resolveImport_importPath (h : isIdentifier names.form = true) (source target : Role) :
    resolveImport (names.path source) (names.importPath source target) =
      some (moduleSegments (names.path target)) := by
  refine resolveImport_relativeImport (fun s hs => ?_) _
  rw [moduleSegments_path h] at hs
  exact namesSegment_of_all (all_continuesIdentifier h hs)

/-- A specifier needs no quoting. -/
theorem mem_toList_importPath (h : isIdentifier names.form = true) {source target : Role} {c : Char}
    (hc : c ∈ (names.importPath source target).toList) :
    c = '/' ∨ c = '.' ∨ continuesIdentifier c = true := by
  rcases mem_toList_relativeImport hc with hslash | hdot | hc
  · exact .inl hslash
  · exact .inr (.inl hdot)
  · rw [path_eq_intercalate, String.toList_intercalate] at hc
    rcases Text.mem_intercalate hc with hslash | ⟨piece, hpiece, hc⟩
    · exact .inl (List.mem_singleton.mp hslash)
    · obtain ⟨s, hs, rfl⟩ := List.mem_map.mp hpiece
      rcases List.mem_append.mp hs with hs | hs
      · exact .inr (.inr (List.all_eq_true.mp
          (all_continuesIdentifier h (List.mem_append_left _ hs)) c hc))
      · rw [List.mem_singleton.mp hs, String.toList_append, String.toList_append,
          List.mem_append, List.mem_append] at hc
        rcases hc with (hc | hc) | hc
        · exact .inr (.inr (List.all_eq_true.mp
            (all_continuesIdentifier h (List.mem_append_right _ (List.mem_singleton_self _))) c hc))
        · exact .inr (.inl (List.mem_singleton.mp hc))
        · have hextension : ∀ c ∈ (extension target).toList, continuesIdentifier c = true := by
            cases target <;> exact Text.forall_mem_of_all (by decide)
          exact .inr (.inr (hextension c hc))

end Naming

end FormScaffold
