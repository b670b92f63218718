import Mathlib.Data.List.Basic
import FormScaffold.Json.Reading
import FormScaffold.Proofs.Result
import FormScaffold.Proofs.Text.Split

/-!
# The grammar of JSON

A text spells a value when it is put together as the grammar says: tokens with white space around
them, strings whose characters may be escaped in several ways, and numbers with a fraction and an
exponent.  A text that spells a value denotes it (`Document.ofText_of_spells`).  Token by token,
what stands behind a value does not matter as long as no token can go on there.
-/

namespace FormScaffold.Json

/-! ## Grammar -/

def Spaces (cs : List Char) : Prop := ∀ c ∈ cs, isSpace c = true

/-- A character as it is, or one of its escapes. -/
inductive StringUnit.Spelled : StringUnit → List Char → Prop
  | plain {c : Char} (hcontrol : 0x20 ≤ c.toNat) (hquote : c ≠ '\x22') (hslash : c ≠ '\\') :
    Spelled (.char c) [c]
  | escape {e c : Char} (h : escapeMeaning? e = some c) : Spelled (.char c) ['\\', e]
  | code {a b c d : Char} {n : Nat} (h : codeUnit? a b c d = some n) :
    Spelled (.code n) ['\\', 'u', a, b, c, d]

inductive UnitsSpelled : List StringUnit → List Char → Prop
  | nil : UnitsSpelled [] []
  | cons {u : StringUnit} {units : List StringUnit} {cs ds : List Char} (hu : u.Spelled cs)
    (hunits : UnitsSpelled units ds) : UnitsSpelled (u :: units) (cs ++ ds)

inductive RawString.Spelled : RawString → List Char → Prop
  | quoted {units : List StringUnit} {cs : List Char} (h : UnitsSpelled units cs) :
    Spelled ⟨units, none⟩ ('\x22' :: (cs ++ ['\x22']))

structure IsDigits (digits : List Char) : Prop where
  ne_nil : digits ≠ []
  isDigit : ∀ c ∈ digits, Json.isDigit c = true

inductive FractionSpelled : List Char → List Char → Prop
  | none : FractionSpelled [] []
  | point {digits : List Char} (h : IsDigits digits) : FractionSpelled digits ('.' :: digits)

inductive SignSpelled : Bool → List Char → Prop
  | none : SignSpelled false []
  | plus : SignSpelled false ['+']
  | minus : SignSpelled true ['-']

inductive ExponentSpelled : Option (Bool × List Char) → List Char → Prop
  | none : ExponentSpelled none []
  | power {mark : Char} {negative : Bool} {sign digits : List Char} (hmark : mark = 'e' ∨ mark = 'E')
    (hsign : SignSpelled negative sign) (hdigits : IsDigits digits) :
    ExponentSpelled (some (negative, digits)) (mark :: (sign ++ digits))

/-- Digits without a zero in front of another digit, and what may follow them. -/
inductive Number.Spelled : Number → List Char → Prop
  | intro {negative : Bool} {whole fraction point power : List Char}
    {exponent : Option (Bool × List Char)} (hwhole : IsDigits whole)
    (hzero : whole.head? = some '0' → whole = ['0']) (hfraction : FractionSpelled fraction point)
    (hexponent : ExponentSpelled exponent power) :
    Spelled ⟨negative, whole, fraction, exponent⟩
      ((if negative then ['-'] else []) ++ (whole ++ (point ++ power)))

/-- A value with its spelling, between white space. -/
structure SpacedValue where
  before : List Char
  value : Value
  spelling : List Char
  after : List Char

namespace SpacedValue

def chars (item : SpacedValue) : List Char := item.before ++ (item.spelling ++ item.after)

structure Spaced (item : SpacedValue) : Prop where
  before : Spaces item.before
  after : Spaces item.after

end SpacedValue

/-- A key with its spelling and a value, with white space around both. -/
structure SpacedMember where
  before : List Char
  key : RawString
  keySpelling : List Char
  between : List Char
  item : SpacedValue

namespace SpacedMember

def chars (member : SpacedMember) : List Char :=
  member.before ++ (member.keySpelling ++ (member.between ++ ':' :: member.item.chars))

def pair (member : SpacedMember) : Member := (member.key, member.item.value)

structure Spaced (member : SpacedMember) : Prop where
  before : Spaces member.before
  between : Spaces member.between
  key : member.key.Spelled member.keySpelling
  item : member.item.Spaced

end SpacedMember

/-- A list or an object may have white space in front of its closing bracket. -/
inductive Value.Spelled : Value → List Char → Prop
  | null : Spelled .null "null".toList
  | true : Spelled (.bool true) "true".toList
  | false : Spelled (.bool false) "false".toList
  | number {n : Number} {cs : List Char} (h : n.Spelled cs) : Spelled (.number n) cs
  | string {s : RawString} {cs : List Char} (h : s.Spelled cs) : Spelled (.string s) cs
  | list {items : List SpacedValue} {close : List Char} (hclose : Spaces close)
    (hspaced : ∀ i ∈ items, i.Spaced) (h : ∀ i ∈ items, Spelled i.value i.spelling) :
    Spelled (.list (items.map (·.value)) .closed)
      ('[' :: ([','].intercalate (items.map (·.chars)) ++ (close ++ [']'])))
  | object {members : List SpacedMember} {close : List Char} (hclose : Spaces close)
    (hspaced : ∀ m ∈ members, m.Spaced)
    (h : ∀ m ∈ members, Spelled m.item.value m.item.spelling) :
    Spelled (.object (members.map (·.pair)) .closed)
      ('\x7b' :: ([','].intercalate (members.map (·.chars)) ++ (close ++ ['\x7d'])))

/-- A text that is a value, between white space. -/
def Spells (text : String) (v : Value) : Prop :=
  ∃ item : SpacedValue, item.value = v ∧ item.Spaced ∧ v.Spelled item.spelling ∧
    text.toList = item.chars

/-! ## Strings -/

theorem StringUnit.Spelled.scanString {u : StringUnit} {cs : List Char} (h : u.Spelled cs)
    (rest : List Char) : scanString (cs ++ rest) = consUnit u (scanString rest) := by
  cases h with
  | @plain c hcontrol hquote hslash =>
    rw [List.singleton_append, Json.scanString, if_neg (Nat.not_lt.mpr hcontrol)]
    · exact hquote
    · exact fun _ _ _ _ _ h _ => hslash h
    · exact fun _ h _ => hslash h
    · exact fun _ _ h _ => hslash h
    · exact fun h _ => hslash h
  | @escape e c h =>
    have he : e ≠ 'u' := by
      rintro rfl
      have hnone : escapeMeaning? 'u' = none := rfl
      exact absurd (hnone.symm.trans h) (by simp)
    show Json.scanString ('\\' :: e :: rest) = _
    rw [Json.scanString, h]
    · exact fun _ _ _ _ _ h _ => he h
    · exact fun h => he h
  | code h =>
    show Json.scanString ('\\' :: 'u' :: _ :: _ :: _ :: _ :: rest) = _
    rw [Json.scanString, h]

theorem UnitsSpelled.scanString {units : List StringUnit} {cs : List Char}
    (h : UnitsSpelled units cs) (rest : List Char) :
    Json.scanString (cs ++ '\x22' :: rest) = (⟨units, none⟩, rest) := by
  induction h with
  | nil => rfl
  | cons hu _ ih => rw [List.append_assoc, hu.scanString, ih, consUnit]

theorem RawString.Spelled.fault_eq_none {s : RawString} {cs : List Char} (h : s.Spelled cs) :
    s.fault = none := by
  cases h
  rfl

theorem RawString.Spelled.tokenize {s : RawString} {cs : List Char} (h : s.Spelled cs)
    (rest : List Char) : tokenize (cs ++ rest) = .string s :: tokenize rest := by
  cases h with
  | @quoted units cs h =>
    have hscan : scanToken '\x22' (cs ++ '\x22' :: rest) = (.string ⟨units, none⟩, rest) := by
      have hquote : ∀ ds, scanToken '\x22' ds =
          (.string (Json.scanString ds).1, (Json.scanString ds).2) := fun _ => rfl
      rw [hquote, h.scanString]
    rw [List.cons_append, List.append_assoc, List.singleton_append, Json.tokenize,
      if_neg (by decide), hscan]

/-! ## Numbers -/

/-- A text at whose front there is no digit. -/
def NoDigit (rest : List Char) : Prop := ∀ c ∈ rest.head?, isDigit c = false

/-- A text at whose front no token goes on. -/
def EndsToken (rest : List Char) : Prop :=
  ∀ c ∈ rest.head?, isSpace c = true ∨ c = ',' ∨ c = ']' ∨ c = '\x7d'

theorem endsToken_cons {c : Char} (h : isSpace c = true ∨ c = ',' ∨ c = ']' ∨ c = '\x7d')
    (rest : List Char) : EndsToken (c :: rest) := by
  intro d hd
  rwa [← Option.some.inj hd]

theorem EndsToken.ne {rest : List Char} (h : EndsToken rest) {c : Char}
    (hc : c ∈ ['.', 'e', 'E'] ∨ isDigit c = true) : c ∉ rest.head? := by
  intro hmem
  rcases h c hmem with hspace | rfl | rfl | rfl
  · simp only [isSpace, Bool.or_eq_true, decide_eq_true_eq] at hspace
    rcases hspace with ((rfl | rfl) | rfl) | rfl <;> exact absurd hc (by decide)
  all_goals exact absurd hc (by decide)

theorem EndsToken.noDigit {rest : List Char} (h : EndsToken rest) : NoDigit rest := by
  intro c hc
  by_contra hdigit
  exact h.ne (.inr (by simpa using hdigit)) hc

theorem scanDigits_append {digits rest : List Char} (h : IsDigits digits) (hrest : NoDigit rest) :
    scanDigits (digits ++ rest) = (digits, none, rest) := by
  have hstop : rest.takeWhile isDigit = [] ∧ rest.dropWhile isDigit = rest := by
    cases rest with
    | nil => exact ⟨rfl, rfl⟩
    | cons c rest =>
      have hc : isDigit c = false := hrest c rfl
      simp [hc]
  have htake : (digits ++ rest).takeWhile isDigit = digits := by
    rw [List.takeWhile_append_of_pos h.isDigit, hstop.1, List.append_nil]
  have hdrop : (digits ++ rest).dropWhile isDigit = rest := by
    rw [List.dropWhile_append_of_pos h.isDigit, hstop.2]
  obtain ⟨c, cs, rfl⟩ := List.exists_cons_of_ne_nil h.ne_nil
  simp only [scanDigits, htake, hdrop]

theorem scanWhole_append {whole rest : List Char} (h : IsDigits whole)
    (hzero : whole.head? = some '0' → whole = ['0']) (hrest : NoDigit rest) :
    scanWhole (whole ++ rest) = (whole, none, rest) := by
  have hdigits := scanDigits_append h hrest
  obtain ⟨c, cs, rfl⟩ := List.exists_cons_of_ne_nil h.ne_nil
  by_cases hc : c = '0'
  · subst hc
    rw [hzero rfl]
    cases rest with
    | nil => rfl
    | cons d rest =>
      have hd : isDigit d = false := hrest d rfl
      simp [scanWhole, hd]
  · rw [List.cons_append] at hdigits ⊢
    rw [scanWhole, hdigits]
    exact fun rest h => hc (List.cons.inj h).1

theorem scanFraction_append {fraction point rest : List Char} (h : FractionSpelled fraction point)
    (hrest : NoDigit rest) (hpoint : '.' ∉ rest.head?) :
    scanFraction (point ++ rest) = (fraction, none, rest) := by
  cases h with
  | none =>
    rw [List.nil_append, scanFraction]
    rintro tail rfl
    exact hpoint rfl
  | point h => exact scanDigits_append h hrest

theorem scanExponent_append {exponent : Option (Bool × List Char)} {power rest : List Char}
    (h : ExponentSpelled exponent power) (hrest : EndsToken rest) :
    scanExponent (power ++ rest) = (exponent, none, rest) := by
  cases h with
  | none =>
    cases rest with
    | nil => rfl
    | cons c rest =>
      have hc : ¬(c = 'e' ∨ c = 'E') := by
        rintro (rfl | rfl)
        · exact hrest.ne (.inl (by decide)) rfl
        · exact hrest.ne (.inl (by decide)) rfl
      rw [List.nil_append, scanExponent, if_neg hc]
  | @power mark negative sign digits hmark hsign hdigits =>
    have hscan := scanDigits_append hdigits hrest.noDigit
    have hsigned : scanSign (sign ++ (digits ++ rest)) = (negative, digits ++ rest) := by
      cases hsign with
      | plus => rfl
      | minus => rfl
      | none =>
        obtain ⟨c, cs, rfl⟩ := List.exists_cons_of_ne_nil hdigits.ne_nil
        have hc := hdigits.isDigit c List.mem_cons_self
        rw [List.nil_append, List.cons_append, scanSign]
        all_goals
          intro tail htail
          rw [(List.cons.inj htail).1] at hc
          exact absurd hc (by decide)
    rw [List.cons_append, List.append_assoc, scanExponent, if_pos hmark]
    simp only [hsigned, hscan]

theorem head?_append_of_point {fraction point rest : List Char} (h : FractionSpelled fraction point)
    (hrest : NoDigit rest) : NoDigit (point ++ rest) := by
  cases h with
  | none => exact hrest
  | point _ =>
    intro c hc
    rw [← Option.some.inj hc]
    decide

/-- No digit and no point comes after the digits that an exponent may follow. -/
theorem ExponentSpelled.head?_append {exponent : Option (Bool × List Char)}
    {power rest : List Char} (h : ExponentSpelled exponent power) (hrest : EndsToken rest) :
    NoDigit (power ++ rest) ∧ '.' ∉ (power ++ rest).head? := by
  cases h with
  | none => exact ⟨hrest.noDigit, hrest.ne (.inl (by decide))⟩
  | power hmark _ _ =>
    refine ⟨fun c hc => ?_, fun hc => ?_⟩
    · rw [← Option.some.inj hc]
      rcases hmark with rfl | rfl <;> decide
    · rcases hmark with rfl | rfl <;> exact absurd (Option.some.inj hc) (by decide)

theorem scanNumber_append {negative : Bool} {whole fraction point power rest : List Char}
    {exponent : Option (Bool × List Char)} (hwhole : IsDigits whole)
    (hzero : whole.head? = some '0' → whole = ['0']) (hfraction : FractionSpelled fraction point)
    (hexponent : ExponentSpelled exponent power) (hrest : EndsToken rest) :
    scanNumber negative (whole ++ (point ++ (power ++ rest))) =
      (.number ⟨negative, whole, fraction, exponent⟩ none, rest) := by
  obtain ⟨hdigit, hpoint⟩ := hexponent.head?_append hrest
  simp [scanNumber, scanWhole_append hwhole hzero (head?_append_of_point hfraction hdigit),
    scanFraction_append hfraction hdigit hpoint, scanExponent_append hexponent hrest]

theorem scanToken_digit {c : Char} (h : isDigit c = true) (cs : List Char) :
    scanToken c cs = scanNumber false (c :: cs) := by
  unfold scanToken
  split <;> first
    | exact absurd h (by decide)
    | exact if_pos h

theorem not_isSpace_of_isDigit {c : Char} (h : isDigit c = true) : ¬isSpace c = true := by
  intro hspace
  simp only [isSpace, Bool.or_eq_true, decide_eq_true_eq] at hspace
  rcases hspace with ((rfl | rfl) | rfl) | rfl <;> exact absurd h (by decide)

/-- A number is read up to where it cannot go on. -/
theorem Number.Spelled.tokenize {n : Number} {cs : List Char} (h : n.Spelled cs)
    {rest : List Char} (hrest : EndsToken rest) :
    tokenize (cs ++ rest) = .number n none :: tokenize rest := by
  cases h with
  | @intro negative whole fraction point power exponent hwhole hzero hfraction hexponent =>
    have hscan := @scanNumber_append negative _ _ _ _ _ _ hwhole hzero hfraction hexponent hrest
    simp only [List.append_assoc]
    cases negative with
    | true =>
      have hminus : ∀ ds, scanToken '-' ds = scanNumber true ds := fun _ => rfl
      rw [if_pos rfl, List.singleton_append, Json.tokenize, if_neg (by decide), hminus, hscan]
    | false =>
      rw [if_neg Bool.false_ne_true, List.nil_append]
      obtain ⟨c, ds, rfl⟩ := List.exists_cons_of_ne_nil hwhole.ne_nil
      have hc := hwhole.isDigit c List.mem_cons_self
      rw [List.cons_append] at hscan ⊢
      rw [Json.tokenize, if_neg (not_isSpace_of_isDigit hc), scanToken_digit hc, hscan]

/-! ## White space and words -/

theorem tokenize_space {c : Char} (h : isSpace c = true) (rest : List Char) :
    tokenize (c :: rest) = tokenize rest := by
  rw [tokenize, if_pos h]

theorem Spaces.tokenize {cs : List Char} (h : Spaces cs) (rest : List Char) :
    tokenize (cs ++ rest) = tokenize rest := by
  induction cs with
  | nil => rfl
  | cons c cs ih =>
    rw [List.cons_append, tokenize_space (h c List.mem_cons_self),
      ih fun d hd => h d (List.mem_cons_of_mem c hd)]

theorem Spaces.endsToken {cs rest : List Char} (h : Spaces cs) (hrest : EndsToken rest) :
    EndsToken (cs ++ rest) := by
  cases cs with
  | nil => exact hrest
  | cons c cs => exact endsToken_cons (.inl (h c List.mem_cons_self)) _

theorem tokenize_null (rest : List Char) :
    tokenize ("null".toList ++ rest) = .word .null none :: tokenize rest := by
  show tokenize ('n' :: 'u' :: 'l' :: 'l' :: rest) = _
  rw [tokenize, if_neg (by decide)]
  rfl

theorem tokenize_true (rest : List Char) :
    tokenize ("true".toList ++ rest) = .word .true none :: tokenize rest := by
  show tokenize ('t' :: 'r' :: 'u' :: 'e' :: rest) = _
  rw [tokenize, if_neg (by decide)]
  rfl

theorem tokenize_false (rest : List Char) :
    tokenize ("false".toList ++ rest) = .word .false none :: tokenize rest := by
  show tokenize ('f' :: 'a' :: 'l' :: 's' :: 'e' :: rest) = _
  rw [tokenize, if_neg (by decide)]
  rfl

/-! ## Places -/

namespace Place

/-- A place at which a value must come, inside some lists and objects. -/
def Expects (place : Place) (outer : List Frame) : Prop :=
  ∀ t, t ≠ .closeList → place.next t = beginValue outer t

theorem expects_value (outer : List Frame) : (value outer).Expects outer := fun _ _ => rfl

theorem expects_listStart (outer : List Frame) :
    (listStart outer).Expects (.item [] :: outer) := by
  intro t ht
  cases t with
  | closeList => exact absurd rfl ht
  | _ => rfl

theorem expects_listComma (items : List Value) (outer : List Frame) :
    (listComma items outer).Expects (.item items :: outer) := by
  intro t ht
  cases t with
  | closeList => exact absurd rfl ht
  | _ => rfl

/-- The place after all tokens of a text. -/
def after (place : Place) (cs : List Char) : Place := (tokenize cs).foldl next place

theorem after_cons {t : Token} {as bs : List Char} (h : tokenize as = t :: tokenize bs)
    (place : Place) : place.after as = (place.next t).after bs := by
  rw [after, h, List.foldl_cons, after]

theorem after_eq {as bs : List Char} (h : tokenize as = tokenize bs) (place : Place) :
    place.after as = place.after bs := by
  rw [after, h, after]

/-- A character that is a token of its own. -/
theorem after_char {c : Char} {t : Token} (hspace : isSpace c = false)
    (hscan : ∀ cs, scanToken c cs = (t, cs)) (place : Place) (cs : List Char) :
    place.after (c :: cs) = (place.next t).after cs := by
  refine after_cons ?_ place
  rw [tokenize, if_neg (by simp [hspace]), hscan]

theorem after_spaces {cs : List Char} (h : Spaces cs) (place : Place) (rest : List Char) :
    place.after (cs ++ rest) = place.after rest :=
  after_eq (h.tokenize rest) place

end Place

/-! ## Values -/

/-- A place that expects a value takes the whole spelling of one. -/
def IsTaken (v : Value) (cs : List Char) : Prop :=
  ∀ (place : Place) (outer : List Frame) (rest : List Char), place.Expects outer →
    EndsToken rest → place.after (cs ++ rest) = (Place.afterValue v outer).after rest

theorem isTaken_of_token {v : Value} {cs : List Char} {t : Token} (ht : t ≠ .closeList)
    (hbegin : ∀ outer, Place.beginValue outer t = Place.afterValue v outer)
    (h : ∀ rest, EndsToken rest → tokenize (cs ++ rest) = t :: tokenize rest) : IsTaken v cs := by
  intro place outer rest hplace hrest
  rw [Place.after_cons (h rest hrest), hplace t ht, hbegin]

/-- White space around a value is passed over. -/
theorem IsTaken.after_chars {item : SpacedValue} (h : IsTaken item.value item.spelling)
    (hspaced : item.Spaced) {place : Place} {outer : List Frame} {rest : List Char}
    (hplace : place.Expects outer) (hrest : EndsToken rest) :
    place.after (item.chars ++ rest) = (Place.afterValue item.value outer).after rest := by
  rw [SpacedValue.chars, List.append_assoc, List.append_assoc,
    Place.after_spaces hspaced.before, h _ _ _ hplace (hspaced.after.endsToken hrest),
    Place.after_spaces hspaced.after]

/-- A key and its value, after which the place stands behind both. -/
theorem after_member {member : SpacedMember} (hspaced : member.Spaced)
    (h : IsTaken member.item.value member.item.spelling) {place : Place} {before : List Member}
    {outer : List Frame}
    (hplace : ∀ s, place.next (.string s) = Place.beginMember before outer (.string s))
    {rest : List Char} (hrest : EndsToken rest) :
    place.after (member.chars ++ rest) =
      (Place.afterMember (before ++ [member.pair]) outer).after rest := by
  have hkey : Place.beginMember before outer (.string member.key) =
      .afterKey before member.key outer := by
    rw [Place.beginMember, hspaced.key.fault_eq_none]
    rfl
  rw [SpacedMember.chars, List.append_assoc, List.append_assoc, List.append_assoc,
    Place.after_spaces hspaced.before, Place.after_cons (hspaced.key.tokenize _), hplace, hkey,
    Place.after_spaces hspaced.between, List.cons_append, Place.after_char rfl (fun _ => rfl)]
  show (Place.value (.member before member.key :: outer)).after _ = _
  rw [h.after_chars hspaced.item (Place.expects_value _) hrest]
  rfl

/-! ## Lists and objects -/

/-- What follows an item of a list, or a member of an object. -/
theorem endsToken_flatMap {α : Type} (chars : α → List Char) (parts : List α) {rest : List Char}
    (hrest : EndsToken rest) : EndsToken (parts.flatMap (fun a => [','] ++ chars a) ++ rest) := by
  cases parts with
  | nil => exact hrest
  | cons a parts => exact endsToken_cons (.inr (.inl rfl)) _

/-- The items of a list, or the members of an object, after the first: behind a comma each one is
put after those before it. -/
theorem after_parts {α β : Type} (place : List β → Place) {chars : α → List Char} {value : α → β}
    {parts : List α} (h : ∀ a ∈ parts, ∀ (before : List β) (rest : List Char), EndsToken rest →
      (place before).after (',' :: (chars a ++ rest)) = (place (before ++ [value a])).after rest)
    {rest : List Char} (hrest : EndsToken rest) (before : List β) :
    (place before).after (parts.flatMap (fun a => [','] ++ chars a) ++ rest) =
      (place (before ++ parts.map value)).after rest := by
  induction parts generalizing before with
  | nil => rw [List.flatMap_nil, List.nil_append, List.map_nil, List.append_nil]
  | cons a parts ih =>
    obtain ⟨ha, hparts⟩ := List.forall_mem_cons.mp h
    rw [List.flatMap_cons, List.append_assoc, List.append_assoc, List.singleton_append,
      ha before _ (endsToken_flatMap chars parts hrest), ih hparts, List.map_cons,
      List.append_assoc, List.singleton_append]

section Sequences

variable {close : List Char} (hclose : Spaces close)
include hclose

theorem isTaken_list {items : List SpacedValue} (hspaced : ∀ i ∈ items, i.Spaced)
    (h : ∀ i ∈ items, IsTaken i.value i.spelling) :
    IsTaken (.list (items.map (·.value)) .closed)
      ('[' :: ([','].intercalate (items.map (·.chars)) ++ (close ++ [']']))) := by
  intro place outer rest hplace hrest
  have hends := hclose.endsToken (endsToken_cons (.inr (.inr (.inl rfl))) rest)
  rw [List.cons_append, List.append_assoc, List.append_assoc, List.singleton_append,
    Place.after_char rfl (fun _ => rfl), hplace _ (by simp)]
  show (Place.listStart outer).after _ = _
  cases items with
  | nil =>
    rw [List.map_nil, List.intercalate_nil, List.nil_append, Place.after_spaces hclose,
      Place.after_char rfl (fun _ => rfl)]
    rfl
  | cons i items =>
    obtain ⟨hi, hitems⟩ := List.forall_mem_cons.mp hspaced
    obtain ⟨hvalue, hvalues⟩ := List.forall_mem_cons.mp h
    rw [List.map_cons, Text.intercalate_cons, List.flatMap_map, List.append_assoc,
      hvalue.after_chars hi (Place.expects_listStart outer) (endsToken_flatMap _ items hends)]
    show (Place.afterItem [i.value] outer).after _ = _
    rw [after_parts (fun before => Place.afterItem before outer) (fun i hi before rest hrest => ?_)
      hends, Place.after_spaces hclose, Place.after_char rfl (fun _ => rfl)]
    · rfl
    · rw [Place.after_char rfl (fun _ => rfl)]
      exact (hvalues i hi).after_chars (hitems i hi) (Place.expects_listComma before outer) hrest

theorem isTaken_object {members : List SpacedMember} (hspaced : ∀ m ∈ members, m.Spaced)
    (h : ∀ m ∈ members, IsTaken m.item.value m.item.spelling) :
    IsTaken (.object (members.map (·.pair)) .closed)
      ('\x7b' :: ([','].intercalate (members.map (·.chars)) ++ (close ++ ['\x7d']))) := by
  intro place outer rest hplace hrest
  have hends := hclose.endsToken (endsToken_cons (.inr (.inr (.inr rfl))) rest)
  rw [List.cons_append, List.append_assoc, List.append_assoc, List.singleton_append,
    Place.after_char rfl (fun _ => rfl), hplace _ (by simp)]
  show (Place.objectStart outer).after _ = _
  cases members with
  | nil =>
    rw [List.map_nil, List.intercalate_nil, List.nil_append, Place.after_spaces hclose,
      Place.after_char rfl (fun _ => rfl)]
    rfl
  | cons m members =>
    obtain ⟨hm, hmembers⟩ := List.forall_mem_cons.mp hspaced
    obtain ⟨hvalue, hvalues⟩ := List.forall_mem_cons.mp h
    rw [List.map_cons, Text.intercalate_cons, List.flatMap_map, List.append_assoc,
      after_member hm hvalue (fun _ => rfl) (endsToken_flatMap _ members hends)]
    show (Place.afterMember [m.pair] outer).after _ = _
    rw [after_parts (fun before => Place.afterMember before outer)
      (fun m hm before rest hrest => ?_) hends, Place.after_spaces hclose,
      Place.after_char rfl (fun _ => rfl)]
    · rfl
    · rw [Place.after_char rfl (fun _ => rfl)]
      exact after_member (hmembers m hm) (hvalues m hm) (fun _ => rfl) hrest

end Sequences

/-- A value is taken wherever one is expected. -/
theorem Value.Spelled.isTaken {v : Value} {cs : List Char} (h : v.Spelled cs) : IsTaken v cs := by
  induction h with
  | null => exact isTaken_of_token (by simp) (fun _ => rfl) fun rest _ => tokenize_null rest
  | true => exact isTaken_of_token (by simp) (fun _ => rfl) fun rest _ => tokenize_true rest
  | false => exact isTaken_of_token (by simp) (fun _ => rfl) fun rest _ => tokenize_false rest
  | @number n _ h =>
    exact isTaken_of_token (t := .number n none) (by simp) (fun _ => rfl)
      fun rest hrest => h.tokenize hrest
  | @string s _ h =>
    refine isTaken_of_token (t := .string s) (by simp) (fun _ => ?_) fun rest _ => h.tokenize rest
    rw [Place.beginValue, h.fault_eq_none]
    rfl
  | list hclose hspaced _ ih => exact isTaken_list hclose hspaced ih
  | object hclose hspaced _ ih => exact isTaken_object hclose hspaced ih

/-! ## Texts -/

/-- The document that a text denotes is the value that it spells. -/
theorem Document.ofText_of_spells {text : String} {v : Value} (h : Spells text v) :
    Document.ofText text = ⟨v, false⟩ := by
  obtain ⟨item, rfl, hspaced, hspelled, htext⟩ := h
  have hnil : EndsToken [] := fun c hc => absurd hc (by simp)
  have hafter := hspelled.isTaken.after_chars hspaced (Place.expects_value []) hnil
  rw [List.append_nil] at hafter
  rw [Document.ofText, Document.ofTokens, htext, ← Place.after, hafter, Place.after, tokenize]
  rfl

/-! ## Values that are skipped -/

theorem skipItems_eq_ok_iff {items : List Value} :
    skipItems items = .ok () ↔ ∀ v ∈ items, v.skip = .ok () := by
  induction items with
  | nil => simp [skipItems]
  | cons v items ih => rw [skipItems, Except.check_bind_eq_ok_iff, ih, List.forall_mem_cons]

theorem skipMembers_eq_ok_iff {members : List Member} :
    skipMembers members = .ok () ↔ ∀ m ∈ members, m.1.skip = .ok () ∧ m.2.skip = .ok () := by
  induction members with
  | nil => simp [skipMembers]
  | cons m members ih =>
    rw [skipMembers, Except.check_bind_eq_ok_iff, Except.check_bind_eq_ok_iff, ih,
      List.forall_mem_cons, and_assoc]

theorem skip_list_iff {items : List Value} :
    (Value.list items .closed).skip = .ok () ↔ ∀ v ∈ items, v.skip = .ok () := by
  rw [← skipItems_eq_ok_iff, Value.skip, Except.check_bind_eq_ok_iff]
  simp [orElseOk, Ending.listSkipProblem?, Ending.listProblem?]

theorem skip_object_iff {members : List Member} :
    (Value.object members .closed).skip = .ok () ↔
      ∀ m ∈ members, m.1.skip = .ok () ∧ m.2.skip = .ok () := by
  rw [← skipMembers_eq_ok_iff, Value.skip, Except.check_bind_eq_ok_iff]
  simp [orElseOk, Ending.objectSkipProblem?, Ending.objectProblem?]

theorem RawString.Spelled.skip {s : RawString} {cs : List Char} (h : s.Spelled cs) :
    s.skip = .ok () := by
  rw [RawString.skip, h.fault_eq_none]

/-- There is nothing wrong with a value that is spelt, wherever it is skipped. -/
theorem Value.Spelled.skip {v : Value} {cs : List Char} (h : v.Spelled cs) : v.skip = .ok () := by
  induction h with
  | null => rfl
  | true => rfl
  | false => rfl
  | number _ => rfl
  | string h => exact h.skip
  | list _ _ _ ih => exact skip_list_iff.mpr (List.forall_mem_map.mpr ih)
  | object _ hspaced _ ih =>
    exact skip_object_iff.mpr (List.forall_mem_map.mpr fun m hm =>
      ⟨(hspaced m hm).key.skip, ih m hm⟩)

theorem Spells.skip {text : String} {v : Value} (h : Spells text v) : v.skip = .ok () := by
  obtain ⟨item, -, -, hspelled, -⟩ := h
  exact hspelled.skip

end FormScaffold.Json
