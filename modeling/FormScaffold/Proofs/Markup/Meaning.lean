import FormScaffold.Proofs.Text.Token

/-!
# The meaning of text in markup

Text that stands in markup as it is need not mean itself.  Character references are replaced by the
characters that they name, and white space at the edges of the lines of child text is dropped.
Both make a text shorter when they change it at all, so a text means itself exactly when neither
finds anything to change (`MarkupReader.resolve_eq_iff`, `MarkupReader.childMeaning_eq_self_iff`).
-/

namespace FormScaffold

/-- What readers of markup may differ in: which characters they take for white space, and which
names of characters they know. -/
structure MarkupReader where
  isSpace : Char → Bool
  named? : List Char → Option Char
  /-- Source is moved in by spaces -/
  isSpace_space : isSpace ' ' = true

namespace MarkupReader

variable (reader : MarkupReader)

/-- A reader that knows the characters with a meaning in markup by their names. -/
def standard : MarkupReader where
  isSpace := Text.isBlank
  named? name :=
    ([("amp", '&'), ("lt", '<'), ("gt", '>'), ("quot", '\x22'), ("apos", '\x27')].find? fun entry =>
      entry.1.toList = name).map (·.2)
  isSpace_space := rfl

/-! ## Character references -/

/-- The character with a number, if there is one. -/
def charOf? (n : Nat) : Option Char := if n.isValidChar then some (Char.ofNat n) else none

/-- The character that is named between the ampersand and the semicolon of a reference: by its
number, by its hexadecimal number, or by a name. -/
def referent? : List Char → Option Char
  | '#' :: 'x' :: digits => (Text.readDigits? 16 digits).bind charOf?
  | '#' :: digits => (Text.readDigits? 10 digits).bind charOf?
  | name => reader.named? name

/-- What stands behind an ampersand, with the ampersand, or with the character in its place if a
reference begins there. -/
def resolvePiece (piece : List Char) : List Char :=
  match Text.cutFirst (· = ';') piece with
  | none => '&' :: piece
  | some (name, behind) =>
    match reader.referent? name with
    | none => '&' :: piece
    | some c => c :: behind

/-- A text with its character references replaced by the characters that they name. -/
def resolve (cs : List Char) : List Char :=
  match Text.split (· = '&') cs with
  | [] => []
  | piece :: pieces => piece ++ pieces.flatMap reader.resolvePiece

/-- A character reference stands in the text. -/
def HasReference (cs : List Char) : Prop :=
  ∃ before name c behind, cs = before ++ '&' :: (name ++ ';' :: behind) ∧ '&' ∉ name ∧
    ';' ∉ name ∧ reader.referent? name = some c

variable {reader}

theorem hasReference_iff {cs : List Char} :
    reader.HasReference cs ↔ ∃ piece ∈ (Text.split (· = '&') cs).tail, ∃ name behind c,
      Text.cutFirst (· = ';') piece = some (name, behind) ∧ reader.referent? name = some c := by
  constructor
  · rintro ⟨before, name, c, behind, rfl, hamp, hsemi, hc⟩
    have hname {x : Char} (hx : x ∉ name) : ∀ d ∈ name, decide (d = x) = false := by
      intro d hd
      refine decide_eq_false ?_
      rintro rfl
      exact hx hd
    cases hbehind : Text.split (· = '&') behind with
    | nil => exact absurd hbehind (Text.split_ne_nil behind)
    | cons p ps =>
      have hpieces : Text.split (· = '&') (name ++ ';' :: behind) = (name ++ ';' :: p) :: ps := by
        refine Text.split_append_of_forall (hname hamp) ?_
        rw [Text.split, hbehind]
        rfl
      refine ⟨name ++ ';' :: p, ?_, name, p, c, Text.cutFirst_append_cons (hname hsemi) rfl p, hc⟩
      rw [Text.split_append_sep before (by rfl), hpieces,
        List.tail_append_of_ne_nil (Text.split_ne_nil before)]
      exact List.mem_append_right _ List.mem_cons_self
  · rintro ⟨piece, hpiece, name, behind, c, hcut, hc⟩
    obtain ⟨d, hd, rfl, hname⟩ := Text.cutFirst_eq_some_iff.mp hcut
    obtain ⟨before, e, after, he, hcs⟩ := Text.exists_append_of_mem_tail_split hpiece
    have hamp : ∀ x ∈ name ++ d :: behind, decide (x = '&') = false := fun x hx =>
      (Text.mem_of_mem_split (List.mem_of_mem_tail hpiece) hx).2
    refine ⟨before, name, c, behind ++ after, ?_, ?_, ?_, hc⟩
    · rw [hcs, of_decide_eq_true hd, of_decide_eq_true he, List.append_assoc, List.cons_append]
    · exact fun h => absurd (hamp '&' (List.mem_append_left _ h)) (by decide)
    · exact fun h => absurd (hname ';' h) (by decide)

theorem mem_of_hasReference {s : List Char} (h : reader.HasReference s) : '&' ∈ s := by
  obtain ⟨before, name, c, behind, rfl, -⟩ := h
  simp

/-- A piece changes only by becoming shorter. -/
theorem resolvePiece_cases (reader : MarkupReader) (piece : List Char) :
    reader.resolvePiece piece = '&' :: piece ∨
      (reader.resolvePiece piece).length < ('&' :: piece).length := by
  rw [resolvePiece]
  split
  · exact .inl rfl
  · next name behind hcut =>
    split
    · exact .inl rfl
    · obtain ⟨d, -, rfl, -⟩ := Text.cutFirst_eq_some_iff.mp hcut
      refine .inr ?_
      rw [List.length_cons, List.length_cons, List.length_append, List.length_cons]
      omega

theorem resolvePiece_eq_self_iff {piece : List Char} :
    reader.resolvePiece piece = '&' :: piece ↔ ¬∃ name behind c,
      Text.cutFirst (· = ';') piece = some (name, behind) ∧ reader.referent? name = some c := by
  rw [resolvePiece]
  constructor
  · rintro h ⟨name, behind, c, hcut, hc⟩
    obtain ⟨d, -, hpiece, -⟩ := Text.cutFirst_eq_some_iff.mp hcut
    rw [hcut] at h
    simp only [hc] at h
    have hlength := congrArg List.length h
    rw [hpiece, List.length_cons, List.length_cons, List.length_append, List.length_cons] at hlength
    omega
  · intro h
    split
    · rfl
    · next name behind hcut =>
      split
      · rfl
      · next c hc => exact absurd ⟨name, behind, c, hcut, hc⟩ h

/-- Pieces that all stay keep their text, and otherwise the text gets shorter. -/
theorem flatMap_resolvePiece_cases (reader : MarkupReader) (pieces : List (List Char)) :
    ((∀ piece ∈ pieces, reader.resolvePiece piece = '&' :: piece) ∧
      pieces.flatMap reader.resolvePiece = pieces.flatMap ('&' :: ·)) ∨
    ((∃ piece ∈ pieces, reader.resolvePiece piece ≠ '&' :: piece) ∧
      (pieces.flatMap reader.resolvePiece).length < (pieces.flatMap ('&' :: ·)).length) := by
  induction pieces with
  | nil => exact .inl ⟨fun p hp => absurd hp List.not_mem_nil, rfl⟩
  | cons p ps ih =>
    simp only [List.flatMap_cons, List.length_append, List.forall_mem_cons,
      List.exists_mem_cons_iff]
    rcases reader.resolvePiece_cases p with hp | hp
    · rcases ih with ⟨hps, heq⟩ | ⟨hps, hlt⟩
      · exact .inl ⟨⟨hp, hps⟩, by rw [hp, heq]⟩
      · exact .inr ⟨.inr hps, by rw [hp]; omega⟩
    · have hne : reader.resolvePiece p ≠ '&' :: p := fun h => absurd (congrArg List.length h) hp.ne
      rcases ih with ⟨-, heq⟩ | ⟨-, hlt⟩
      · exact .inr ⟨.inl hne, by rw [heq]; omega⟩
      · exact .inr ⟨.inl hne, by omega⟩

theorem eq_append_flatMap_of_split {cs piece : List Char} {pieces : List (List Char)}
    (h : Text.split (· = '&') cs = piece :: pieces) : cs = piece ++ pieces.flatMap ('&' :: ·) := by
  have hjoin := Text.intercalate_split '&' cs
  rw [h, Text.intercalate_cons] at hjoin
  exact hjoin.symm

/-- A text without references stays as it is, and one with references gets shorter. -/
theorem resolve_cases (reader : MarkupReader) (cs : List Char) :
    (¬reader.HasReference cs ∧ reader.resolve cs = cs) ∨
      (reader.HasReference cs ∧ (reader.resolve cs).length < cs.length) := by
  rw [hasReference_iff, resolve]
  cases h : Text.split (· = '&') cs with
  | nil => exact absurd h (Text.split_ne_nil cs)
  | cons piece pieces =>
    have hcs := eq_append_flatMap_of_split h
    simp only [List.tail_cons]
    rcases reader.flatMap_resolvePiece_cases pieces with ⟨hall, heq⟩ | ⟨hsome, hlt⟩
    · refine .inl ⟨?_, by rw [heq, ← hcs]⟩
      rintro ⟨p, hp, hreference⟩
      exact resolvePiece_eq_self_iff.mp (hall p hp) hreference
    · obtain ⟨p, hp, hne⟩ := hsome
      refine .inr ⟨⟨p, hp, ?_⟩, ?_⟩
      · by_contra hnone
        exact hne (resolvePiece_eq_self_iff.mpr hnone)
      · rw [congrArg List.length hcs, List.length_append, List.length_append]
        omega

/-- A text that is no longer than another one means it only if it is that text, without
references. -/
theorem resolve_eq_iff {cs text : List Char} (hlength : cs.length ≤ text.length) :
    reader.resolve cs = text ↔ cs = text ∧ ¬reader.HasReference text := by
  rcases reader.resolve_cases cs with ⟨hnone, heq⟩ | ⟨hsome, hlt⟩
  · rw [heq]
    constructor
    · rintro rfl
      exact ⟨rfl, hnone⟩
    · exact fun h => h.1
  · constructor
    · rintro rfl
      exact absurd hlt (by omega)
    · rintro ⟨rfl, hnone⟩
      exact absurd hsome hnone

/-! ## White space in child text -/

/-- A character that ends a line. -/
def isLineEnd (c : Char) : Bool := c = '\n' || c = '\r'

variable (reader)

/-- A line without white space at either end. -/
def trimLine (line : List Char) : List Char :=
  (line.dropWhile reader.isSpace).rdropWhile reader.isSpace

/-- The lines behind the first one, without white space at their edges. -/
def trimBehind : List (List Char) → List (List Char)
  | [] => []
  | [last] => [last.dropWhile reader.isSpace]
  | line :: lines => reader.trimLine line :: trimBehind lines

/-- The lines of child text, without white space at their edges.  Neither the beginning nor the end
of the text is the edge of a line. -/
def trimLines : List (List Char) → List (List Char)
  | [] => []
  | [only] => [only]
  | first :: lines => first.rdropWhile reader.isSpace :: reader.trimBehind lines

/-- Lines in a row, with a space between them and without the empty ones. -/
def joined (lines : List (List Char)) : List Char :=
  [' '].intercalate (lines.filter fun line => !line.isEmpty)

/-- What child text means. -/
def childMeaning (cs : List Char) : List Char :=
  reader.resolve (joined (reader.trimLines (Text.split isLineEnd cs)))

variable {reader}

@[simp] theorem childMeaning_nil (reader : MarkupReader) : reader.childMeaning [] = [] := rfl

theorem length_intercalate (lines : List (List Char)) :
    ([' '].intercalate lines).length = (lines.flatMap (' ' :: ·)).length - 1 := by
  cases lines with
  | nil => rfl
  | cons line lines =>
    rw [Text.intercalate_cons, List.flatMap_cons]
    rfl

/-- Lines that are left of the lines of a text. -/
def LeftOf (lines : List (List Char)) (cs : List Char) : Prop :=
  List.Forall₂ (fun line piece => line.Sublist piece) lines (Text.split isLineEnd cs)

theorem length_flatMap_filter_le {lines pieces : List (List Char)}
    (h : List.Forall₂ List.Sublist lines pieces) :
    ((lines.filter fun line => !line.isEmpty).flatMap (' ' :: ·)).length ≤
      (pieces.flatMap (' ' :: ·)).length := by
  induction h with
  | nil => exact le_rfl
  | cons hline _ ih =>
    have hlength := hline.length_le
    rw [List.filter_cons]
    split
    · simp only [List.flatMap_cons, List.length_append, List.length_cons]
      omega
    · simp only [List.flatMap_cons, List.length_append]
      omega

theorem LeftOf.length_joined_le {lines : List (List Char)} {cs : List Char} (h : LeftOf lines cs) :
    (joined lines).length ≤ cs.length := by
  have hle := length_flatMap_filter_le h
  have hlength : ([' '].intercalate (Text.split isLineEnd cs)).length = cs.length :=
    Text.length_intercalate_split ' ' cs
  rw [joined, length_intercalate, ← hlength, length_intercalate]
  omega

/-- No line end is left between the lines of a text. -/
theorem LeftOf.not_isLineEnd {lines : List (List Char)} {cs : List Char} (h : LeftOf lines cs) :
    ∀ c ∈ joined lines, isLineEnd c = false := by
  intro c hc
  rcases Text.mem_intercalate hc with hspace | ⟨line, hline, hc⟩
  · rw [List.mem_singleton.mp hspace]
    rfl
  · obtain ⟨i, hi, rfl⟩ := List.getElem_of_mem (List.mem_of_mem_filter hline)
    have hsub := (List.forall₂_iff_get.mp h).2 i hi (h.length_eq ▸ hi)
    exact (Text.mem_of_mem_split (List.get_mem _ _) (hsub.subset hc)).2

theorem sublist_trimLine (reader : MarkupReader) (line : List Char) :
    (reader.trimLine line).Sublist line :=
  (List.rdropWhile_prefix _ _).sublist.trans (List.dropWhile_sublist _)

theorem trimBehind_cons (reader : MarkupReader) (line : List Char) {lines : List (List Char)}
    (h : lines ≠ []) :
    reader.trimBehind (line :: lines) = reader.trimLine line :: reader.trimBehind lines := by
  cases lines with
  | nil => exact absurd rfl h
  | cons next lines => rfl

theorem forall₂_trimBehind (reader : MarkupReader) (lines : List (List Char)) :
    List.Forall₂ List.Sublist (reader.trimBehind lines) lines := by
  induction lines with
  | nil => exact .nil
  | cons line lines ih =>
    cases lines with
    | nil => exact .cons (List.dropWhile_sublist _) .nil
    | cons next lines => exact .cons (reader.sublist_trimLine line) ih

theorem leftOf_trimLines (reader : MarkupReader) (cs : List Char) :
    LeftOf (reader.trimLines (Text.split isLineEnd cs)) cs := by
  rw [LeftOf]
  cases Text.split isLineEnd cs with
  | nil => exact .nil
  | cons first lines =>
    cases lines with
    | nil => exact .cons (List.Sublist.refl first) .nil
    | cons next lines =>
      exact .cons (List.rdropWhile_prefix _ _).sublist (reader.forall₂_trimBehind _)

theorem joined_singleton (line : List Char) : joined [line] = line := by
  cases line with
  | nil => rfl
  | cons c line => simp [joined]

/-- Child text within one line of source means itself exactly when it holds neither the end of a
line nor a reference. -/
theorem childMeaning_eq_self_iff {cs : List Char} :
    reader.childMeaning cs = cs ↔ (∀ c ∈ cs, isLineEnd c = false) ∧ ¬reader.HasReference cs := by
  have hleft := reader.leftOf_trimLines cs
  rw [childMeaning, resolve_eq_iff hleft.length_joined_le]
  refine and_congr_left fun _ => ⟨fun h => h ▸ hleft.not_isLineEnd, fun h => ?_⟩
  rw [Text.split_of_forall h]
  exact joined_singleton cs

/-! ## Child text on a line of its own -/

theorem trimBehind_concat (reader : MarkupReader) (lines : List (List Char)) (last : List Char) :
    reader.trimBehind (lines ++ [last]) =
      lines.map reader.trimLine ++ [last.dropWhile reader.isSpace] := by
  induction lines with
  | nil => rfl
  | cons line lines ih =>
    rw [List.cons_append, trimBehind_cons reader line (by simp), ih]
    rfl

theorem joined_between (lines : List (List Char)) :
    joined ([] :: (lines ++ [[]])) = joined lines := by
  simp [joined]

theorem dropWhile_spaces (reader : MarkupReader) (n : Nat) (cs : List Char) :
    (List.replicate n ' ' ++ cs).dropWhile reader.isSpace = cs.dropWhile reader.isSpace := by
  refine List.dropWhile_append_of_pos fun c hc => ?_
  rw [List.eq_of_mem_replicate hc]
  exact reader.isSpace_space

theorem dropWhile_onlySpaces (reader : MarkupReader) (n : Nat) :
    (List.replicate n ' ').dropWhile reader.isSpace = [] := by
  have hdrop := reader.dropWhile_spaces n []
  rwa [List.append_nil] at hdrop

theorem not_isLineEnd_spaces (n : Nat) : ∀ c ∈ List.replicate n ' ', isLineEnd c = false := by
  intro c hc
  rw [List.eq_of_mem_replicate hc]
  rfl

/-- The lines of a text that stands on lines of its own are trimmed at both ends. -/
theorem trimLines_ownLines (reader : MarkupReader) (m n : Nat) (cs : List Char) :
    reader.trimLines (Text.split isLineEnd
      ('\n' :: (List.replicate m ' ' ++ cs ++ '\n' :: List.replicate n ' '))) =
      [] :: ((Text.split isLineEnd cs).map reader.trimLine ++ [[]]) := by
  have htrim (p : List Char) : reader.trimLine (List.replicate m ' ' ++ p) = reader.trimLine p := by
    rw [trimLine, trimLine, dropWhile_spaces]
  cases hsplit : Text.split isLineEnd cs with
  | nil => exact absurd hsplit (Text.split_ne_nil cs)
  | cons piece pieces =>
    have hlines : Text.split isLineEnd
        ('\n' :: (List.replicate m ' ' ++ cs ++ '\n' :: List.replicate n ' ')) =
          [] :: ((List.replicate m ' ' ++ piece) :: pieces ++ [List.replicate n ' ']) := by
      rw [← List.nil_append ('\n' :: _), Text.split_append_sep _ rfl, Text.split_append_sep _ rfl,
        Text.split_append_of_forall (not_isLineEnd_spaces m) hsplit,
        Text.split_of_forall (not_isLineEnd_spaces n)]
      rfl
    rw [hlines]
    show List.rdropWhile reader.isSpace [] :: reader.trimBehind (_ ++ _) = _
    rw [trimBehind_concat, dropWhile_onlySpaces, List.map_cons, htrim]
    rfl

theorem trimLine_eq_self_iff {line : List Char} :
    reader.trimLine line = line ↔
      (∀ c ∈ line.head?, reader.isSpace c = false) ∧
        ∀ c ∈ line.getLast?, reader.isSpace c = false :=
  Text.rdropWhile_dropWhile_eq_self_iff

/-- What child text on a line of its own means. -/
def ownLineMeaning (reader : MarkupReader) (cs : List Char) : List Char :=
  reader.resolve (joined ((Text.split isLineEnd cs).map reader.trimLine))

theorem childMeaning_ownLine (reader : MarkupReader) (m n : Nat) (cs : List Char) :
    reader.childMeaning ('\n' :: (List.replicate m ' ' ++ cs ++ '\n' :: List.replicate n ' ')) =
      reader.ownLineMeaning cs := by
  rw [childMeaning, trimLines_ownLines, joined_between, ownLineMeaning]

/-- Child text on a line of its own means itself exactly when, besides, it neither begins nor ends
with white space. -/
theorem ownLineMeaning_eq_self_iff {cs : List Char} :
    reader.ownLineMeaning cs = cs ↔
      (∀ c ∈ cs, isLineEnd c = false) ∧ ¬reader.HasReference cs ∧
        (∀ c ∈ cs.head?, reader.isSpace c = false) ∧
          ∀ c ∈ cs.getLast?, reader.isSpace c = false := by
  have hleft : LeftOf ((Text.split isLineEnd cs).map reader.trimLine) cs := by
    rw [LeftOf, List.forall₂_map_left_iff, List.forall₂_same]
    exact fun line _ => reader.sublist_trimLine line
  rw [ownLineMeaning, resolve_eq_iff hleft.length_joined_le, and_comm, and_left_comm,
    ← trimLine_eq_self_iff]
  refine and_congr_right fun _ => ⟨fun h => ?_, fun h => ?_⟩
  · have hend : ∀ c ∈ cs, isLineEnd c = false := h ▸ hleft.not_isLineEnd
    rw [Text.split_of_forall hend, List.map_singleton, joined_singleton] at h
    exact ⟨hend, h⟩
  · rw [Text.split_of_forall h.1, List.map_singleton, joined_singleton, h.2]

/-- White space between two lines of source means nothing. -/
@[simp] theorem childMeaning_moved (reader : MarkupReader) (n : Nat) :
    reader.childMeaning ('\n' :: List.replicate n ' ') = [] := by
  rw [childMeaning, ← List.nil_append ('\n' :: _), Text.split_append_sep _ rfl,
    Text.split_of_forall (not_isLineEnd_spaces n)]
  show reader.resolve (joined [[], (List.replicate n ' ').dropWhile reader.isSpace]) = []
  rw [dropWhile_onlySpaces]
  rfl

end MarkupReader

end FormScaffold
