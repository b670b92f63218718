import FormScaffold.Proofs.Naming.Path

/-!
# Imports between any two files

For every two paths the import between them is well defined: no step of its computation reaches
beyond a list or below zero (`relativeImport?_eq_some`).  It is a relative specifier, and from the
importing file it leads to the imported one without its last extension
(`relativeImport_leads`).
-/

namespace FormScaffold

/-! ## The computation, step by step -/

/-- A difference that is not negative. -/
def difference? (m n : Nat) : Option Nat := if n ≤ m then some (m - n) else none

/-- The parts of a list before a position and from it on, if the list is long enough. -/
def cutAt? {α : Type} (n : Nat) (as : List α) : Option (List α × List α) :=
  if n ≤ as.length then some (as.take n, as.drop n) else none

/-- The directories of a file: what stands before the last slash of its path, cut at slashes. -/
def directoriesBefore (path : String) : List String :=
  (Text.cutLast (· = '/') path.toList).elim [] fun (directory, _) =>
    (Text.split (· = '/') directory).map String.ofList

/-- An import as it is computed, where every difference, cut and position may fail. -/
def relativeImport? (fromFile toFile : String) : Option String := do
  let fromDirs := directoriesBefore fromFile
  let toParts := pathSegments toFile
  let last ← difference? toParts.length 1
  let (toDirs, toNames) ← cutAt? last toParts
  let common := ((fromDirs.zip toDirs).takeWhile fun (a, b) => a = b).length
  let ups ← difference? fromDirs.length common
  let (_, down) ← cutAt? common toDirs
  let toName ← toNames[0]?
  return "/".intercalate ((if ups = 0 then ["."] else List.replicate ups "..") ++ down ++
    [dropExtension toName])

/-- The pieces before the last separator are all pieces but the last. -/
theorem Text.dropLast_split {sep : Char → Bool} (cs : List Char) :
    (split sep cs).dropLast = (cutLast sep cs).elim [] fun (before, _) => split sep before := by
  induction cs with
  | nil => rfl
  | cons c cs ih =>
    have hne : split sep cs ≠ [] := split_ne_nil cs
    obtain ⟨p, ps, hsplit⟩ := List.exists_cons_of_ne_nil hne
    rw [hsplit] at ih
    by_cases hc : sep c = true
    · rw [split, if_pos hc, hsplit, List.dropLast_cons_of_ne_nil (List.cons_ne_nil p ps), ih, cutLast]
      cases cutLast sep cs with
      | none => simp [hc, split]
      | some parts => simp [hc, split]
    · rw [split, if_neg hc, hsplit, cutLast]
      cases hcut : cutLast sep cs with
      | none =>
        rw [hcut] at ih
        cases ps with
        | nil => simp [hc]
        | cons q qs => exact absurd ih (by simp)
      | some parts =>
        rw [hcut] at ih
        cases ps with
        | nil => exact absurd ih.symm (split_ne_nil _)
        | cons q qs =>
          have hbefore : split sep parts.1 = p :: (q :: qs).dropLast := ih.symm
          simp [hc, split, hbefore]

theorem directoriesBefore_eq (path : String) :
    directoriesBefore path = (pathSegments path).dropLast := by
  rw [directoriesBefore, pathSegments, ← List.map_dropLast, Text.dropLast_split]
  cases Text.cutLast (· = '/') path.toList <;> rfl

theorem length_takeWhile_zip (as bs : List String) :
    ((as.zip bs).takeWhile fun (a, b) => a = b).length = commonLength as bs := by
  fun_induction commonLength as bs with
  | case1 a as bs ih => simp [ih]
  | case2 a as b bs hne => simp [hne]
  | case3 as bs hne =>
    cases as with
    | nil => rfl
    | cons a as =>
      cases bs with
      | nil => rfl
      | cons b bs => exact absurd rfl (hne a as b bs rfl)

theorem difference?_of_le {m n : Nat} (h : n ≤ m) : difference? m n = some (m - n) := if_pos h

theorem cutAt?_of_le {α : Type} {n : Nat} {as : List α} (h : n ≤ as.length) :
    cutAt? n as = some (as.take n, as.drop n) := if_pos h

/-- No step of the computation fails, whatever the two paths are. -/
theorem relativeImport?_eq_some (file target : String) :
    relativeImport? file target = some (relativeImport file target) := by
  obtain ⟨dirs, name, hparts⟩ : ∃ dirs name, pathSegments target = dirs ++ [name] :=
    ⟨_, _, (List.dropLast_append_getLast (pathSegments_ne_nil target)).symm⟩
  have hlast : difference? (pathSegments target).length 1 = some dirs.length := by
    rw [hparts, List.length_append, List.length_singleton]
    exact difference?_of_le (Nat.le_add_left 1 _)
  have hcut : cutAt? dirs.length (pathSegments target) = some (dirs, [name]) := by
    rw [hparts, cutAt?_of_le (by simp), List.take_left, List.drop_left]
  obtain ⟨hfrom, htake⟩ := commonLength_le (pathSegments file).dropLast dirs
  have hto : commonLength (pathSegments file).dropLast dirs ≤ dirs.length := by
    have hlength := congrArg List.length htake
    rw [List.length_take, List.length_take, Nat.min_eq_left hfrom] at hlength
    exact hlength ▸ Nat.min_le_right _ _
  simp only [relativeImport?, hlast, hcut, directoriesBefore_eq, length_takeWhile_zip,
    difference?_of_le hfrom, cutAt?_of_le hto, Option.bind_eq_bind, Option.bind_some]
  rw [relativeImport, hparts, List.dropLast_concat, List.getLastD_concat]
  rfl

/-! ## Where an import leads -/

/-- Segments behind a first one are written behind a slash. -/
theorem isPrefix_intercalate (first : String) {behind : List String} (h : behind ≠ []) :
    first.toList ++ ['/'] <+: ("/".intercalate (first :: behind)).toList := by
  obtain ⟨second, rest, rfl⟩ := List.exists_cons_of_ne_nil h
  rw [String.intercalate_cons_cons, String.toList_append, String.toList_append]
  exact List.prefix_append _ _

/-- An import starts at the directory of its file, or above it. -/
theorem isPrefix_relativeImport (file target : String) :
    "./".toList <+: (relativeImport file target).toList ∨
      "../".toList <+: (relativeImport file target).toList := by
  simp only [relativeImport, relativeSegments, List.append_assoc]
  split
  · exact .inl (isPrefix_intercalate "." (by simp))
  · next hups =>
    obtain ⟨ups, hsucc⟩ := Nat.exists_eq_succ_of_ne_zero hups
    rw [hsucc, List.replicate_succ, List.cons_append]
    exact .inr (isPrefix_intercalate ".." (by simp))

/-- For any two files the import of one in the other is computed without a fault and is relative to
the importing file's directory.  From there it leads, step by step and never above the root, to the
imported file without its last extension, provided that no part of this place is a step itself. -/
theorem relativeImport_leads (file target : String) :
    relativeImport? file target = some (relativeImport file target) ∧
    ("./".toList <+: (relativeImport file target).toList ∨
      "../".toList <+: (relativeImport file target).toList) ∧
    ((∀ s ∈ moduleSegments target, s ≠ "." ∧ s ≠ "..") →
      resolveImport file (relativeImport file target) = some (moduleSegments target)) :=
  ⟨relativeImport?_eq_some file target, isPrefix_relativeImport file target,
    fun h => resolveImport_relativeImport h file⟩

theorem relativeImport_leads_elsewhere :
    let file := "src/app/api/form.v2/route.ts"
    let target := "src/api/form.v2/schema.d.ts"
    (∀ s ∈ moduleSegments target, s ≠ "." ∧ s ≠ "..") ∧
      relativeImport file target = "../../../api/form.v2/schema.d" ∧
      resolveImport file (relativeImport file target) =
        some ["src", "api", "form.v2", "schema.d"] := by
  intro file target
  have hnames : ∀ s ∈ moduleSegments target, s ≠ "." ∧ s ≠ ".." := by decide
  have hsegments : moduleSegments target = ["src", "api", "form.v2", "schema.d"] := by decide
  refine ⟨hnames, by decide, ?_⟩
  rw [← hsegments]
  exact (relativeImport_leads file target).2.2 hnames

/-- A file that has only an extension leads nowhere. -/
example : resolveImport "a/b.ts" (relativeImport "a/b.ts" "a/...") = some [] := by decide

end FormScaffold
