import Mathlib.Data.List.Basic
import FormScaffold.Artifact.Basic
import FormScaffold.Proofs.Form.Valid
import FormScaffold.Proofs.Text.Split

/-!
# Reading imports

An import line is cut at the quotes around its specifier and gives back what is imported, and from
where.  All lines of well-formed imports are read back (`read?_line`).
-/

namespace FormScaffold

/-! ## Trimming -/

namespace Text

theorem trimChars_cons {c : Char} (h : isBlank c = true) (cs : List Char) :
    trimChars (c :: cs) = trimChars cs := by
  rw [trimChars, List.dropWhile_cons_of_pos h, trimChars]

theorem trimChars_concat {c : Char} (h : isBlank c = true) (cs : List Char) :
    trimChars (cs ++ [c]) = trimChars cs := by
  rw [trimChars, trimChars, List.dropWhile_append]
  split
  · next hempty => simp [List.isEmpty_iff.mp hempty, h]
  · rw [List.reverse_append, List.reverse_singleton, List.singleton_append,
      List.dropWhile_cons_of_pos h]

/-- A text without white space has none at its ends. -/
theorem trimChars_eq_self {cs : List Char} (h : ∀ c ∈ cs, isBlank c = false) :
    trimChars cs = cs := by
  have hdrop {ds : List Char} (hds : ∀ c ∈ ds, isBlank c = false) : ds.dropWhile isBlank = ds := by
    cases ds with
    | nil => rfl
    | cons d ds => rw [List.dropWhile_cons_of_neg (by simp [hds d List.mem_cons_self])]
  rw [trimChars, hdrop h, hdrop fun c hc => h c (List.mem_reverse.mp hc), List.reverse_reverse]

/-- What stands between a text at the front and a text at the end. -/
def between? (opening closing cs : List Char) : Option (List Char) :=
  (cs.dropPrefix? opening).bind (·.dropSuffix? closing)

theorem between?_append (opening closing cs : List Char) :
    between? opening closing (opening ++ cs ++ closing) = some cs := by
  have hfront : (opening ++ cs ++ closing).dropPrefix? opening = some (cs ++ closing) :=
    List.dropPrefix?_eq_some_iff.mpr ⟨opening, by simp, by simp⟩
  rw [between?, hfront, Option.bind_some]
  exact List.dropSuffix?_eq_some_iff.mpr ⟨closing, rfl, by simp⟩

end Text

namespace Import

/-! ## The reader -/

/-- The names that an import binds. -/
def names : Import → List String
  | named names _ | types names _ => names
  | default name _ => [name]

def source : Import → String
  | named _ source | types _ source | default _ source => source

/-- Names in braces, separated by commas. -/
def readNames? (cs : List Char) : Option (List String) :=
  (Text.between? ['\x7b'] ['\x7d'] cs).map fun inner =>
    (Text.split (· = ',') inner).map fun name => String.ofList (Text.trimChars name)

/-- What is imported, given the source. -/
def readClause? (clause : List Char) (source : String) : Option Import :=
  match readNames? clause with
  | some names => some (named names source)
  | none =>
    match clause.dropPrefix? "type ".toList with
    | some rest => (readNames? rest).map (types · source)
    | none => some (default (String.ofList clause) source)

/-- The import that a line denotes. -/
def read? (l : String) : Option Import :=
  match Text.split (· = '\x27') l.toList with
  | [front, source, [';']] =>
    (Text.between? "import ".toList " from ".toList front).bind
      (readClause? · (String.ofList source))
  | _ => none

/-! ## Well-formed imports -/

/-- A name of an import list, possibly behind the word `type`. -/
def IsName (s : String) : Prop :=
  '\x27' ∉ s.toList ∧ ',' ∉ s.toList ∧ Text.trimChars s.toList = s.toList

instance (s : String) : Decidable (IsName s) := inferInstanceAs (Decidable (_ ∧ _))

/-- An import whose parts can be told apart in its line. -/
def WellFormed : Import → Prop
  | named names source | types names source =>
    '\x27' ∉ source.toList ∧ names ≠ [] ∧ ∀ n ∈ names, IsName n
  | default name source => '\x27' ∉ source.toList ∧ isIdentifier name = true

instance : (i : Import) → Decidable i.WellFormed
  | named _ _ | types _ _ => inferInstanceAs (Decidable (_ ∧ _ ∧ ∀ n ∈ _, _))
  | default _ _ => inferInstanceAs (Decidable (_ ∧ _))

theorem isName_of_isIdentifier {s : String} (h : isIdentifier s = true) : IsName s := by
  have hword := continuesIdentifier_of_mem h
  refine ⟨fun hc => ?_, fun hc => ?_, Text.trimChars_eq_self fun c hc => ?_⟩
  · exact absurd (hword _ hc) (by decide)
  · exact absurd (hword _ hc) (by decide)
  · exact isBlank_of_continuesIdentifier (hword c hc)

/-! ## Reading lines back -/

theorem readNames?_nameList {names : List String} (hne : names ≠ []) (h : ∀ n ∈ names, IsName n) :
    readNames? (nameList names).toList = some names := by
  have hsplit : (Text.split (· = ',')
      (' ' :: ([',', ' '].intercalate (names.map String.toList) ++ [' ']))).map
        (fun name => String.ofList (Text.trimChars name)) = names := by
    induction names with
    | nil => exact absurd rfl hne
    | cons n names ih =>
      obtain ⟨-, hcomma, htrim⟩ := h n List.mem_cons_self
      have htrimmed : Text.trimChars (' ' :: n.toList) = n.toList := by
        rw [Text.trimChars_cons rfl, htrim]
      have hpiece : ∀ c ∈ ' ' :: n.toList, decide (c = ',') = false := by
        intro c hc
        refine decide_eq_false ?_
        rintro rfl
        rcases List.mem_cons.mp hc with hspace | hc
        · exact absurd hspace (by decide)
        · exact hcomma hc
      cases names with
      | nil =>
        have hlast : ∀ c ∈ (' ' :: n.toList) ++ [' '], decide (c = ',') = false := by
          intro c hc
          rcases List.mem_append.mp hc with hc | hc
          · exact hpiece c hc
          · rw [List.mem_singleton.mp hc]
            rfl
        rw [List.map_singleton, List.intercalate_singleton, ← List.cons_append,
          Text.split_of_forall hlast, List.map_singleton, Text.trimChars_concat rfl, htrimmed,
          String.ofList_toList]
      | cons m names =>
        have ih := ih (List.cons_ne_nil m names) fun k hk => h k (List.mem_cons_of_mem n hk)
        have hcut : ' ' :: ([',', ' '].intercalate ((n :: m :: names).map String.toList) ++ [' ']) =
            (' ' :: n.toList) ++ ',' ::
              (' ' :: ([',', ' '].intercalate ((m :: names).map String.toList) ++ [' '])) := by
          simp
        rw [hcut, Text.split_append_cons hpiece rfl, List.map_cons, ih, htrimmed,
          String.ofList_toList]
  have hlist : (nameList names).toList = ['\x7b'] ++
      (' ' :: ([',', ' '].intercalate (names.map String.toList) ++ [' '])) ++ ['\x7d'] := by
    simp [nameList, Quoted.braced]
  rw [readNames?, hlist, Text.between?_append, Option.map_some, hsplit]

/-- A list of names holds the characters of the names and those around them. -/
theorem notMem_nameList {c : Char} (hc : c ∉ ['\x7b', ' ', ',', '\x7d']) {names : List String}
    (h : ∀ n ∈ names, c ∉ n.toList) : c ∉ (nameList names).toList := by
  intro hmem
  obtain ⟨hopen, hspace, hcomma, hclose⟩ : c ≠ '\x7b' ∧ c ≠ ' ' ∧ c ≠ ',' ∧ c ≠ '\x7d' := by
    simpa using hc
  have hjoined : c ∈ ", ".toList.intercalate (names.map String.toList) := by
    simpa [nameList, Quoted.braced, hopen, hspace, hclose] using hmem
  rcases Text.mem_intercalate hjoined with hseparator | ⟨piece, hpiece, hmem⟩
  · have hseparator : c ∈ [',', ' '] := hseparator
    exact absurd hseparator (by simp [hcomma, hspace])
  · obtain ⟨n, hn, rfl⟩ := List.mem_map.mp hpiece
    exact h n hn hmem

theorem quote_notMem_nameList {names : List String} (h : ∀ n ∈ names, IsName n) :
    '\x27' ∉ (nameList names).toList :=
  notMem_nameList (by decide) fun n hn => (h n hn).1

/-- The parts of a line are cut at the quotes around its source. -/
theorem read?_append {clause source : String} (hclause : '\x27' ∉ clause.toList)
    (hsource : '\x27' ∉ source.toList) :
    read? ("import " ++ clause ++ " from '" ++ source ++ "';") =
      readClause? clause.toList source := by
  have hline : ("import " ++ clause ++ " from '" ++ source ++ "';").toList =
      ("import ".toList ++ clause.toList ++ " from ".toList) ++ '\x27' ::
        (source.toList ++ '\x27' :: [';']) := by
    simp
  have hfront : ∀ c ∈ "import ".toList ++ clause.toList ++ " from ".toList,
      decide (c = '\x27') = false := by
    intro c hc
    refine decide_eq_false ?_
    rintro rfl
    rcases List.mem_append.mp hc with hc | hc
    · rcases List.mem_append.mp hc with hc | hc
      · exact absurd hc (by decide)
      · exact hclause hc
    · exact absurd hc (by decide)
  have hmiddle : ∀ c ∈ source.toList, decide (c = '\x27') = false := fun c hc =>
    decide_eq_false fun hquote => hsource (hquote ▸ hc)
  have hpieces : Text.split (· = '\x27') ("import " ++ clause ++ " from '" ++ source ++ "';").toList =
      ["import ".toList ++ clause.toList ++ " from ".toList, source.toList, [';']] := by
    rw [hline, Text.split_append_cons hfront rfl, Text.split_append_cons hmiddle rfl]
    rfl
  rw [read?, hpieces]
  show (Text.between? _ _ _).bind _ = _
  rw [Text.between?_append, Option.bind_some, String.ofList_toList]

/-- A line gives back its import. -/
theorem read?_line {i : Import} (h : i.WellFormed) : read? i.line = some i := by
  cases i with
  | named names source =>
    obtain ⟨hsource, hne, hnames⟩ := h
    rw [line, read?_append (quote_notMem_nameList hnames) hsource, readClause?,
      readNames?_nameList hne hnames]
  | types names source =>
    obtain ⟨hsource, hne, hnames⟩ := h
    have hquote : '\x27' ∉ ("type " ++ nameList names).toList := by
      rw [String.toList_append, List.mem_append, not_or]
      exact ⟨by decide, quote_notMem_nameList hnames⟩
    have hnone : readNames? ("type " ++ nameList names).toList = none := by
      rw [String.toList_append]
      rfl
    have htype : ("type " ++ nameList names).toList.dropPrefix? "type ".toList =
        some (nameList names).toList :=
      List.dropPrefix?_eq_some_iff.mpr ⟨"type ".toList, by simp, by simp⟩
    have hread := read?_append hquote hsource
    rw [readClause?, hnone, htype] at hread
    dsimp only at hread
    rw [readNames?_nameList hne hnames, Option.map_some] at hread
    rw [line, ← hread]
    congr 4
  | default name source =>
    obtain ⟨hsource, hname⟩ := h
    have hword := continuesIdentifier_of_mem hname
    have hquote : '\x27' ∉ name.toList := fun hc => absurd (hword _ hc) (by decide)
    have hnone : readNames? name.toList = none := by
      rw [readNames?, Option.map_eq_none_iff, Text.between?, Option.bind_eq_none_iff]
      intro rest hrest
      obtain ⟨opening, hcut, hopening⟩ := List.dropPrefix?_eq_some_iff.mp hrest
      rw [beq_iff_eq] at hopening
      exact absurd (hword '\x7b' (by simp [hcut, hopening])) (by decide)
    have htype : name.toList.dropPrefix? "type ".toList = none := by
      rw [Option.eq_none_iff_forall_not_mem]
      intro rest hrest
      obtain ⟨opening, hcut, hopening⟩ := List.dropPrefix?_eq_some_iff.mp hrest
      rw [beq_iff_eq] at hopening
      exact absurd (hword ' ' (by simp [hcut, hopening])) (by decide)
    rw [line, read?_append hquote hsource, readClause?, hnone, htype, String.ofList_toList]

end Import

end FormScaffold
