import Mathlib.Data.List.Basic
import FormScaffold.Proofs.Form.Valid

/-!
# The violation that is reported

What a form must satisfy is stated here requirement by requirement, with the violation that names
each one (`Form.Breaks`).  A form is valid when it breaks no requirement, and otherwise the
violation that is reported comes before all others that there are (`Form.validate_first`): the
requirements have a fixed order, and within one of them the fields and buttons have theirs.
-/

namespace FormScaffold

/-! ## Texts -/

namespace Text

/-- An ASCII letter. -/
def Letter (c : Char) : Prop := ('A' ≤ c ∧ c ≤ 'Z') ∨ ('a' ≤ c ∧ c ≤ 'z')

/-- An ASCII digit. -/
def Digit (c : Char) : Prop := '0' ≤ c ∧ c ≤ '9'

/-- A hexadecimal digit. -/
def HexDigit (c : Char) : Prop := Digit c ∨ ('a' ≤ c ∧ c ≤ 'f') ∨ ('A' ≤ c ∧ c ≤ 'F')

end Text

open Text (AllBlank Digit HexDigit Letter isBlank)

/-- An ASCII identifier: a letter, `_` or `$`, and then letters, digits, `_` and `$`. -/
def SymbolName (s : String) : Prop :=
  ∃ c cs, s.toList = c :: cs ∧ (Letter c ∨ c = '_' ∨ c = '$') ∧
    ∀ d ∈ cs, Letter d ∨ Digit d ∨ d = '_' ∨ d = '$'

/-- A hash sign and exactly six hexadecimal digits. -/
def ColorCode (s : String) : Prop :=
  ∃ digits, s.toList = '#' :: digits ∧ digits.length = 6 ∧ ∀ d ∈ digits, HexDigit d

/-- No quote, backtick, backslash, brace or angle bracket. -/
def ClassNames (s : String) : Prop :=
  ∀ c ∈ s.toList, c ∉ ['\x22', '\x27', '\x60', '\\', '\x7b', '\x7d', '<', '>']

/-- No quote, backtick, backslash or white space. -/
def StorageName (s : String) : Prop :=
  ∀ c ∈ s.toList, c ∉ ['\x22', '\x27', '\x60', '\\'] ∧ isBlank c = false

theorem isAlpha_iff (c : Char) : c.isAlpha = true ↔ Letter c := by
  have hletter : c.isAlpha = (decide (c.val ≥ 'A'.val ∧ c.val ≤ 'Z'.val) ||
      c.val ≥ 'a'.val && c.val ≤ 'z'.val) := rfl
  rw [hletter, Bool.or_eq_true, Bool.and_eq_true, decide_eq_true_eq, decide_eq_true_eq,
    decide_eq_true_eq]
  exact Iff.rfl

theorem isDigit_iff (c : Char) : c.isDigit = true ↔ Digit c := by
  have hdigit : c.isDigit = (decide (c.val ≥ '0'.val) && decide (c.val ≤ '9'.val)) := rfl
  rw [hdigit, Bool.and_eq_true, decide_eq_true_eq, decide_eq_true_eq]
  exact Iff.rfl

theorem isIdentifier_iff (s : String) : isIdentifier s = true ↔ SymbolName s := by
  have hstart (c : Char) : startsIdentifier c = true ↔ Letter c ∨ c = '_' ∨ c = '$' := by
    rw [startsIdentifier, Bool.or_eq_true, Bool.or_eq_true, decide_eq_true_eq, decide_eq_true_eq,
      isAlpha_iff, or_assoc]
  have hcontinue (c : Char) :
      continuesIdentifier c = true ↔ Letter c ∨ Digit c ∨ c = '_' ∨ c = '$' := by
    have hword : c.isAlphanum = (c.isAlpha || c.isDigit) := rfl
    rw [continuesIdentifier, hword, Bool.or_eq_true, Bool.or_eq_true, Bool.or_eq_true,
      decide_eq_true_eq, decide_eq_true_eq, isAlpha_iff, isDigit_iff, or_assoc, or_assoc]
  rw [isIdentifier, SymbolName]
  cases s.toList with
  | nil => simp
  | cons c cs => simp [hstart, hcontinue, and_assoc]

theorem isSome_digitValue?_iff (c : Char) : (Text.digitValue? c).isSome = true ↔ HexDigit c := by
  rw [Text.digitValue?, HexDigit, Digit]
  split
  · next hdigit => exact iff_of_true rfl (.inl hdigit)
  · next hdigit =>
    split
    · next hlower => exact iff_of_true rfl (.inr (.inl hlower))
    · next hlower =>
      split
      · next hupper => exact iff_of_true rfl (.inr (.inr hupper))
      · next hupper => simp [hdigit, hlower, hupper]

theorem isHexColor_iff (s : String) : isHexColor s = true ↔ ColorCode s := by
  rw [isHexColor, ColorCode]
  split
  · next digits heq => simp [heq, isSome_digitValue?_iff]
  · next hne =>
    refine iff_of_false Bool.false_ne_true ?_
    rintro ⟨digits, heq, -⟩
    exact hne digits heq

theorem isClassList_iff (s : String) : isClassList s = true ↔ ClassNames s := by
  rw [isClassList, Bool.not_eq_true', List.any_eq_false]
  refine forall₂_congr fun c _ => not_congr ?_
  rw [breaksClassList, List.contains_iff_mem]

theorem isStorageName_iff (s : String) : isStorageName s = true ↔ StorageName s := by
  rw [isStorageName, Bool.not_eq_true', List.any_eq_false]
  refine forall₂_congr fun c _ => ?_
  rw [breaksStorageName, Bool.or_eq_true, not_or, List.contains_iff_mem, Bool.not_eq_true]

/-! ## The order of violations -/

namespace Violation

/-- Which requirement on forms a violation names, in the order in which they are looked at. -/
def requirement : Violation → Nat
  | invalidFormName _ => 0
  | invalidFieldName _ _ | duplicateFieldName _ _ => 1
  | noButtons => 2
  | emptyButtonName _ => 3
  | submitIndexOutOfRange _ _ => 4
  | invalidWidth _ => 5
  | missing key => if key = "linkText" ∨ key = "linkHref" then 6 else 8
  | invalidColor _ _ => 7
  | invalidStorageName _ _ => 8
  | serverActionNeedsApp => 9
  | routeRequired => 10
  | unknownFieldType _ _ | unknownButtonVariant _ _ | unknownRoutingStyle _ => 11

/-- Where a violation stands among those of its requirement.  At one field the shape of its name
comes before its use by an earlier field. -/
def position : Violation → Nat
  | invalidFieldName index _ => 2 * index
  | duplicateFieldName index _ => 2 * index + 1
  | emptyButtonName index => index
  | missing key => if key = "linkText" ∨ key = "databaseName" then 0 else 2
  | invalidColor key _ => if key = "primaryColor" then 0 else 1
  | invalidStorageName key _ => if key = "databaseName" then 1 else 3
  | _ => 0

/-- One violation is looked at before another one. -/
def Before (v w : Violation) : Prop :=
  v.requirement < w.requirement ∨ v.requirement = w.requirement ∧ v.position < w.position

theorem Before.asymm {v w : Violation} (h : v.Before w) : ¬w.Before v := by
  rw [Before] at h ⊢
  omega

end Violation

/-- The first of some violations, or nothing if there are none. -/
def IsFirst (broken : Violation → Prop) : Option Violation → Prop
  | none => ∀ v, ¬broken v
  | some v => broken v ∧ ∀ w, broken w → w = v ∨ v.Before w

namespace IsFirst

variable {P Q : Violation → Prop} {o p : Option Violation}

theorem congr (h : IsFirst P o) (heq : ∀ v, P v ↔ Q v) : IsFirst Q o := by
  have hPQ : P = Q := funext fun v => propext (heq v)
  exact hPQ ▸ h

/-- What is looked at first is reported first. -/
theorem or (ho : IsFirst P o) (hp : IsFirst Q p) (hbefore : ∀ v w, P v → Q w → v.Before w) :
    IsFirst (fun v => P v ∨ Q v) (o.or p) := by
  cases o with
  | none =>
    refine congr hp fun v => ?_
    rw [or_iff_right (ho v)]
  | some v =>
    refine ⟨.inl ho.1, ?_⟩
    rintro w (hw | hw)
    · exact ho.2 w hw
    · exact .inr (hbefore v w ho.1 hw)

theorem require (condition : Bool) (violation : Violation) :
    IsFirst (fun v => condition = false ∧ v = violation)
      (FormScaffold.require condition violation) := by
  cases condition with
  | true => exact fun v hv => Bool.noConfusion hv.1
  | false => exact ⟨⟨rfl, rfl⟩, fun w hw => .inl hw.2⟩

theorem bind {α : Type} {a : Option α} {report : α → Option Violation}
    {R : α → Violation → Prop} (h : ∀ x, IsFirst (R x) (report x)) :
    IsFirst (fun v => ∃ x, a = some x ∧ R x v) (a.bind report) := by
  cases a with
  | none =>
    rintro v ⟨x, hx, -⟩
    exact absurd hx (Option.some_ne_none x).symm
  | some x =>
    refine congr (h x) fun v => ?_
    simp

/-- The first of some violations is the one before which there is no other. -/
theorem eq_some_iff (h : IsFirst P o) {v : Violation} :
    o = some v ↔ P v ∧ ∀ w, P w → w = v ∨ v.Before w := by
  constructor
  · rintro rfl
    exact h
  · rintro ⟨hv, hfirst⟩
    cases o with
    | none => exact absurd hv (h v)
    | some u =>
      rcases h.2 v hv with rfl | huv
      · rfl
      · rcases hfirst u h.1 with rfl | hvu
        · rfl
        · exact absurd hvu huv.asymm

theorem eq_none_iff (h : IsFirst P o) : o = none ↔ ∀ v, ¬P v := by
  cases o with
  | none => exact iff_of_true rfl h
  | some v => exact iff_of_false (Option.some_ne_none v) fun hnone => hnone v h.1

end IsFirst

/-- Reports on requirements in a row, each with the first violation of its own. -/
inductive InOrder : Nat → List (Violation → Prop) → List (Option Violation) → Prop
  | nil {n : Nat} : InOrder n [] []
  | cons {n : Nat} {P : Violation → Prop} {Ps : List (Violation → Prop)} {o : Option Violation}
    {os : List (Option Violation)} : (∀ v, P v → v.requirement = n) → IsFirst P o →
    InOrder (n + 1) Ps os → InOrder n (P :: Ps) (o :: os)

namespace InOrder

variable {n : Nat} {Ps : List (Violation → Prop)} {os : List (Option Violation)}

/-- A requirement that is a single condition. -/
theorem require {p : Prop} {condition : Bool} {violation : Violation}
    (hn : violation.requirement = n) (h : condition = false ↔ p) (hos : InOrder (n + 1) Ps os) :
    InOrder n ((fun v => p ∧ v = violation) :: Ps)
      (FormScaffold.require condition violation :: os) := by
  refine .cons ?_ ((IsFirst.require condition violation).congr fun v => ?_) hos
  · rintro v ⟨-, rfl⟩
    exact hn
  · rw [h]

theorem le_requirement (h : InOrder n Ps os) {P : Violation → Prop} (hP : P ∈ Ps) {v : Violation}
    (hv : P v) : n ≤ v.requirement := by
  induction h with
  | nil => exact absurd hP List.not_mem_nil
  | cons hn _ _ ih =>
    rcases List.mem_cons.mp hP with rfl | hP
    · exact Nat.le_of_eq (hn v hv).symm
    · exact Nat.le_of_succ_le (ih hP)

/-- The first report is on the first violation of all. -/
theorem isFirst (h : InOrder n Ps os) : IsFirst (fun v => ∃ P ∈ Ps, P v) (os.findSome? id) := by
  induction h with
  | nil =>
    rintro v ⟨P, hP, -⟩
    exact absurd hP List.not_mem_nil
  | @cons n P Ps o os hn ho hos ih =>
    have hor : (o :: os).findSome? id = o.or (os.findSome? id) := by
      cases o <;> rfl
    rw [hor]
    refine (ho.or ih ?_).congr fun v => ?_
    · rintro v w hv ⟨Q, hQ, hw⟩
      refine .inl ?_
      rw [hn v hv]
      exact hos.le_requirement hQ hw
    · rw [List.exists_mem_cons_iff]

end InOrder

/-! ## Requirements on forms -/

/-- A violation of a form: a requirement that the form does not meet, and where. -/
inductive Form.Breaks (form : Form) : Violation → Prop
  | formName : ¬SymbolName form.name → Breaks form (.invalidFormName form.name)
  | fieldName {index : Nat} {f : Field} : form.fields[index]? = some f → ¬SymbolName f.name →
    Breaks form (.invalidFieldName index f.name)
  | duplicate {index first : Nat} {f g : Field} : form.fields[index]? = some f →
    first < index → form.fields[first]? = some g → g.name = f.name →
    Breaks form (.duplicateFieldName index f.name)
  | buttons : form.buttons = [] → Breaks form .noButtons
  | buttonText {index : Nat} {b : Button} : form.buttons[index]? = some b → AllBlank b.text →
    Breaks form (.emptyButtonName index)
  | submitIndex : ¬(1 ≤ form.submitIndex ∧ form.submitIndex ≤ form.buttons.length) →
    Breaks form (.submitIndexOutOfRange form.submitIndex form.buttons.length)
  | width : ¬ClassNames form.width → Breaks form (.invalidWidth form.width)
  | link {l : Link} {key text : String} : form.link = some l →
    (key, text) ∈ [("linkText", l.text), ("linkHref", l.target)] → AllBlank text →
    Breaks form (.missing key)
  | color {t : Theme} {key color : String} : form.theme = some t →
    (key, color) ∈ [("primaryColor", t.primary), ("secondaryColor", t.secondary)] →
    ¬ColorCode color → Breaks form (.invalidColor key color)
  | noStorageName {s : Storage} {key name : String} : form.storage = some s →
    (key, name) ∈ [("databaseName", s.database), ("collectionName", s.collection)] →
    name = "" → Breaks form (.missing key)
  | storageName {s : Storage} {key name : String} : form.storage = some s →
    (key, name) ∈ [("databaseName", s.database), ("collectionName", s.collection)] →
    ¬StorageName name → Breaks form (.invalidStorageName key name)
  | serverAction : form.serverAction = true → form.routing ≠ .app →
    Breaks form .serverActionNeedsApp
  | route : form.storage ≠ none → form.serverAction = false → form.apiRoute = false →
    Breaks form .routeRequired

/-! ### Fields and buttons -/

/-- A violation of some fields, given how many there are before and which names they have. -/
def FieldBreaks (index : Nat) (seen : List String) (fields : List Field) (v : Violation) : Prop :=
  ∃ k f, fields[k]? = some f ∧
    (¬SymbolName f.name ∧ v = .invalidFieldName (index + k) f.name ∨
      (f.name ∈ seen ∨ ∃ first < k, ∃ g, fields[first]? = some g ∧ g.name = f.name) ∧
        v = .duplicateFieldName (index + k) f.name)

theorem fieldBreaks_cons {index : Nat} {seen : List String} {f : Field} {fs : List Field}
    {v : Violation} :
    FieldBreaks index seen (f :: fs) v ↔
      (¬SymbolName f.name ∧ v = .invalidFieldName index f.name) ∨
      (f.name ∈ seen ∧ v = .duplicateFieldName index f.name) ∨
      FieldBreaks (index + 1) (f.name :: seen) fs v := by
  constructor
  · rintro ⟨k, g, hg, hbroken⟩
    cases k with
    | zero =>
      obtain rfl : f = g := Option.some.inj hg
      rcases hbroken with hname | ⟨hseen | ⟨first, hfirst, -⟩, hv⟩
      · exact .inl hname
      · exact .inr (.inl ⟨hseen, hv⟩)
      · exact absurd hfirst (Nat.not_lt_zero first)
    | succ k =>
      refine .inr (.inr ⟨k, g, hg, ?_⟩)
      rw [Nat.add_right_comm, Nat.add_assoc]
      rcases hbroken with hname | ⟨hseen | ⟨first, hfirst, e, he, hname⟩, hv⟩
      · exact .inl hname
      · exact .inr ⟨.inl (List.mem_cons_of_mem _ hseen), hv⟩
      · cases first with
        | zero =>
          obtain rfl : f = e := Option.some.inj he
          exact .inr ⟨.inl (hname ▸ List.mem_cons_self), hv⟩
        | succ first =>
          exact .inr ⟨.inr ⟨first, Nat.lt_of_succ_lt_succ hfirst, e, he, hname⟩, hv⟩
  · rintro (hname | ⟨hseen, hv⟩ | ⟨k, g, hg, hbroken⟩)
    · exact ⟨0, f, rfl, .inl hname⟩
    · exact ⟨0, f, rfl, .inr ⟨.inl hseen, hv⟩⟩
    · refine ⟨k + 1, g, hg, ?_⟩
      rw [Nat.add_right_comm, Nat.add_assoc] at hbroken
      rcases hbroken with hname | ⟨hseen | ⟨first, hfirst, e, he, hname⟩, hv⟩
      · exact .inl hname
      · rcases List.mem_cons.mp hseen with hname | hseen
        · exact .inr ⟨.inr ⟨0, Nat.succ_pos k, f, rfl, hname.symm⟩, hv⟩
        · exact .inr ⟨.inl hseen, hv⟩
      · exact .inr ⟨.inr ⟨first + 1, Nat.succ_lt_succ hfirst, e, he, hname⟩, hv⟩

theorem FieldBreaks.le_position {index : Nat} {seen : List String} {fields : List Field}
    {v : Violation} (h : FieldBreaks index seen fields v) :
    v.requirement = 1 ∧ 2 * index ≤ v.position := by
  obtain ⟨k, f, -, ⟨-, rfl⟩ | ⟨-, rfl⟩⟩ := h
  · refine ⟨rfl, ?_⟩
    rw [Violation.position]
    omega
  · refine ⟨rfl, ?_⟩
    rw [Violation.position]
    omega

/-- The first misnamed field is reported, given the names that are seen before. -/
theorem isFirst_fieldViolation? (index : Nat) (seen : List String) (fields : List Field) :
    IsFirst (FieldBreaks index seen fields) (fieldViolation? index seen fields) := by
  induction fields generalizing index seen with
  | nil =>
    rintro v ⟨k, f, hf, -⟩
    simp at hf
  | cons f fs ih =>
    have hor : fieldViolation? index seen (f :: fs) =
        (require (isIdentifier f.name) (.invalidFieldName index f.name)).or
          ((require (f.name ∉ seen) (.duplicateFieldName index f.name)).or
            (fieldViolation? (index + 1) (f.name :: seen) fs)) := by
      rw [fieldViolation?]
      cases isIdentifier f.name with
      | false => rfl
      | true => by_cases hseen : f.name ∈ seen <;> simp [require, hseen]
    rw [hor]
    refine ((IsFirst.require _ _).or ((IsFirst.require _ _).or (ih _ _) ?_) ?_).congr fun v => ?_
    · rintro v w ⟨-, rfl⟩ hw
      obtain ⟨hrequirement, hposition⟩ := hw.le_position
      refine .inr ⟨hrequirement.symm, ?_⟩
      rw [Violation.position]
      omega
    · rintro v w ⟨-, rfl⟩ (⟨-, rfl⟩ | hw)
      · exact .inr ⟨rfl, Nat.lt_succ_self _⟩
      · obtain ⟨hrequirement, hposition⟩ := hw.le_position
        refine .inr ⟨hrequirement.symm, ?_⟩
        rw [Violation.position]
        omega
    · rw [fieldBreaks_cons, ← Bool.not_eq_true, isIdentifier_iff]
      simp

/-- A violation of some buttons, given how many there are before. -/
def ButtonBreaks (index : Nat) (buttons : List Button) (v : Violation) : Prop :=
  ∃ k b, buttons[k]? = some b ∧ AllBlank b.text ∧ v = .emptyButtonName (index + k)

theorem buttonBreaks_cons {index : Nat} {b : Button} {bs : List Button} {v : Violation} :
    ButtonBreaks index (b :: bs) v ↔
      (AllBlank b.text ∧ v = .emptyButtonName index) ∨ ButtonBreaks (index + 1) bs v := by
  constructor
  · rintro ⟨k, a, ha, hblank, rfl⟩
    cases k with
    | zero =>
      obtain rfl : b = a := Option.some.inj ha
      exact .inl ⟨hblank, rfl⟩
    | succ k => exact .inr ⟨k, a, ha, hblank, by rw [Nat.add_right_comm, Nat.add_assoc]⟩
  · rintro (⟨hblank, rfl⟩ | ⟨k, a, ha, hblank, rfl⟩)
    · exact ⟨0, b, rfl, hblank, rfl⟩
    · exact ⟨k + 1, a, ha, hblank, by rw [Nat.add_right_comm, Nat.add_assoc]⟩

theorem ButtonBreaks.requirement_eq {index : Nat} {buttons : List Button} {v : Violation}
    (h : ButtonBreaks index buttons v) : v.requirement = 3 := by
  obtain ⟨k, b, -, -, rfl⟩ := h
  rfl

/-- The first button without a text is reported. -/
theorem isFirst_buttonViolation? (index : Nat) (buttons : List Button) :
    IsFirst (ButtonBreaks index buttons) (buttonViolation? index buttons) := by
  induction buttons generalizing index with
  | nil =>
    rintro v ⟨k, b, hb, -⟩
    simp at hb
  | cons b bs ih =>
    have hor : buttonViolation? index (b :: bs) =
        (require (!decide (AllBlank b.text)) (.emptyButtonName index)).or
          (buttonViolation? (index + 1) bs) := by
      rw [buttonViolation?]
      by_cases hblank : AllBlank b.text <;> simp [require, hblank]
    rw [hor]
    refine ((IsFirst.require _ _).or (ih _) ?_).congr fun v => ?_
    · rintro v w ⟨-, rfl⟩ ⟨k, a, -, -, rfl⟩
      refine .inr ⟨rfl, ?_⟩
      simp only [Violation.position]
      omega
    · rw [buttonBreaks_cons]
      simp

/-! ### Link, theme and storage -/

theorem exists_keyed_iff {key key' text text' : String} {R : String → String → Prop} :
    (∃ k t, (k, t) ∈ [(key, text), (key', text')] ∧ R k t) ↔ R key text ∨ R key' text' := by
  constructor
  · rintro ⟨k, t, hmem, h⟩
    rcases List.mem_pair.mp hmem with heq | heq
    · obtain ⟨rfl, rfl⟩ := Prod.mk.inj heq
      exact .inl h
    · obtain ⟨rfl, rfl⟩ := Prod.mk.inj heq
      exact .inr h
  · rintro (h | h)
    · exact ⟨key, text, List.mem_cons_self, h⟩
    · exact ⟨key', text', List.mem_cons_of_mem _ List.mem_cons_self, h⟩

/-- A violation of a link. -/
def LinkBreaks (l : Link) (v : Violation) : Prop :=
  ∃ key text, (key, text) ∈ [("linkText", l.text), ("linkHref", l.target)] ∧
    AllBlank text ∧ v = .missing key

theorem LinkBreaks.requirement_eq {l : Link} {v : Violation} (h : LinkBreaks l v) :
    v.requirement = 6 := by
  rw [LinkBreaks, exists_keyed_iff] at h
  rcases h with ⟨-, rfl⟩ | ⟨-, rfl⟩
  · rfl
  · rfl

theorem isFirst_linkViolation? (l : Link) : IsFirst (LinkBreaks l) l.violation? := by
  refine ((IsFirst.require _ _).or (IsFirst.require _ _) ?_).congr fun v => ?_
  · rintro v w ⟨-, rfl⟩ ⟨-, rfl⟩
    exact .inr ⟨rfl, of_decide_eq_true rfl⟩
  · rw [LinkBreaks, exists_keyed_iff]
    simp

/-- A violation of a theme. -/
def ThemeBreaks (t : Theme) (v : Violation) : Prop :=
  ∃ key color, (key, color) ∈ [("primaryColor", t.primary), ("secondaryColor", t.secondary)] ∧
    ¬ColorCode color ∧ v = .invalidColor key color

theorem ThemeBreaks.requirement_eq {t : Theme} {v : Violation} (h : ThemeBreaks t v) :
    v.requirement = 7 := by
  obtain ⟨key, color, -, -, rfl⟩ := h
  rfl

theorem isFirst_themeViolation? (t : Theme) : IsFirst (ThemeBreaks t) t.violation? := by
  refine ((IsFirst.require _ _).or (IsFirst.require _ _) ?_).congr fun v => ?_
  · rintro v w ⟨-, rfl⟩ ⟨-, rfl⟩
    exact .inr ⟨rfl, of_decide_eq_true rfl⟩
  · rw [ThemeBreaks, exists_keyed_iff, ← isHexColor_iff, ← isHexColor_iff, Bool.not_eq_true,
      Bool.not_eq_true]

/-- A violation of a storage. -/
def StorageBreaks (s : Storage) (v : Violation) : Prop :=
  ∃ key name, (key, name) ∈ [("databaseName", s.database), ("collectionName", s.collection)] ∧
    (name = "" ∧ v = .missing key ∨ ¬StorageName name ∧ v = .invalidStorageName key name)

theorem StorageBreaks.requirement_eq {s : Storage} {v : Violation} (h : StorageBreaks s v) :
    v.requirement = 8 := by
  rw [StorageBreaks, exists_keyed_iff] at h
  rcases h with (⟨-, rfl⟩ | ⟨-, rfl⟩) | ⟨-, rfl⟩ | ⟨-, rfl⟩
  · rfl
  · rfl
  · rfl
  · rfl

theorem isFirst_storageViolation? (s : Storage) : IsFirst (StorageBreaks s) s.violation? := by
  refine ((((IsFirst.require _ _).or (IsFirst.require _ _) ?_).or
    ((IsFirst.require _ _).or (IsFirst.require _ _) ?_) ?_)).congr fun v => ?_
  · rintro v w ⟨-, rfl⟩ ⟨-, rfl⟩
    exact .inr ⟨rfl, of_decide_eq_true rfl⟩
  · rintro v w ⟨-, rfl⟩ ⟨-, rfl⟩
    exact .inr ⟨rfl, of_decide_eq_true rfl⟩
  · rintro v w (⟨-, rfl⟩ | ⟨-, rfl⟩) (⟨-, rfl⟩ | ⟨-, rfl⟩)
    all_goals exact .inr ⟨rfl, of_decide_eq_true rfl⟩
  · rw [StorageBreaks, exists_keyed_iff, ← isStorageName_iff, ← isStorageName_iff]
    simp

/-! ### Whole forms -/

namespace Form

/-- What can be broken, requirement by requirement. -/
def broken (form : Form) : List (Violation → Prop) :=
  [ fun v => ¬SymbolName form.name ∧ v = .invalidFormName form.name,
    FieldBreaks 0 [] form.fields,
    fun v => form.buttons = [] ∧ v = .noButtons,
    ButtonBreaks 0 form.buttons,
    fun v => ¬(1 ≤ form.submitIndex ∧ form.submitIndex ≤ form.buttons.length) ∧
      v = .submitIndexOutOfRange form.submitIndex form.buttons.length,
    fun v => ¬ClassNames form.width ∧ v = .invalidWidth form.width,
    fun v => ∃ l, form.link = some l ∧ LinkBreaks l v,
    fun v => ∃ t, form.theme = some t ∧ ThemeBreaks t v,
    fun v => ∃ s, form.storage = some s ∧ StorageBreaks s v,
    fun v => (form.serverAction = true ∧ form.routing ≠ .app) ∧ v = .serverActionNeedsApp,
    fun v => (form.storage ≠ none ∧ form.serverAction = false ∧ form.apiRoute = false) ∧
      v = .routeRequired ]

theorem exists_broken {form : Form} {v : Violation} (n : Nat) {P : Violation → Prop}
    (hP : form.broken[n]? = some P) (hv : P v) : ∃ P ∈ form.broken, P v :=
  ⟨P, List.mem_of_getElem? hP, hv⟩

theorem breaks_iff {form : Form} {v : Violation} : form.Breaks v ↔ ∃ P ∈ form.broken, P v := by
  constructor
  · intro h
    cases h with
    | formName hname => exact exists_broken 0 rfl ⟨hname, rfl⟩
    | @fieldName index f hf hname =>
      exact exists_broken 1 rfl ⟨index, f, hf, .inl ⟨hname, by rw [Nat.zero_add]⟩⟩
    | @duplicate index first f g hf hfirst hg hname =>
      exact exists_broken 1 rfl
        ⟨index, f, hf, .inr ⟨.inr ⟨first, hfirst, g, hg, hname⟩, by rw [Nat.zero_add]⟩⟩
    | buttons hbuttons => exact exists_broken 2 rfl ⟨hbuttons, rfl⟩
    | @buttonText index b hb hblank =>
      exact exists_broken 3 rfl ⟨index, b, hb, hblank, by rw [Nat.zero_add]⟩
    | submitIndex hindex => exact exists_broken 4 rfl ⟨hindex, rfl⟩
    | width hwidth => exact exists_broken 5 rfl ⟨hwidth, rfl⟩
    | link hl hkey hblank => exact exists_broken 6 rfl ⟨_, hl, _, _, hkey, hblank, rfl⟩
    | color ht hkey hcolor => exact exists_broken 7 rfl ⟨_, ht, _, _, hkey, hcolor, rfl⟩
    | noStorageName hs hkey hempty =>
      exact exists_broken 8 rfl ⟨_, hs, _, _, hkey, .inl ⟨hempty, rfl⟩⟩
    | storageName hs hkey hname =>
      exact exists_broken 8 rfl ⟨_, hs, _, _, hkey, .inr ⟨hname, rfl⟩⟩
    | serverAction haction hrouting => exact exists_broken 9 rfl ⟨⟨haction, hrouting⟩, rfl⟩
    | route hs haction hroute => exact exists_broken 10 rfl ⟨⟨hs, haction, hroute⟩, rfl⟩
  · rintro ⟨P, hP, hv⟩
    simp only [broken, List.mem_cons, List.not_mem_nil, or_false] at hP
    rcases hP with rfl | rfl | rfl | rfl | rfl | rfl | rfl | rfl | rfl | rfl | rfl
    · obtain ⟨hname, rfl⟩ := hv
      exact .formName hname
    · obtain ⟨k, f, hf, ⟨hname, rfl⟩ | ⟨hseen | ⟨first, hfirst, g, hg, hname⟩, rfl⟩⟩ := hv
      · rw [Nat.zero_add]
        exact .fieldName hf hname
      · exact absurd hseen List.not_mem_nil
      · rw [Nat.zero_add]
        exact .duplicate hf hfirst hg hname
    · obtain ⟨hbuttons, rfl⟩ := hv
      exact .buttons hbuttons
    · obtain ⟨k, b, hb, hblank, rfl⟩ := hv
      rw [Nat.zero_add]
      exact .buttonText hb hblank
    · obtain ⟨hindex, rfl⟩ := hv
      exact .submitIndex hindex
    · obtain ⟨hwidth, rfl⟩ := hv
      exact .width hwidth
    · obtain ⟨l, hl, key, text, hkey, hblank, rfl⟩ := hv
      exact .link hl hkey hblank
    · obtain ⟨t, ht, key, color, hkey, hcolor, rfl⟩ := hv
      exact .color ht hkey hcolor
    · obtain ⟨s, hs, key, name, hkey, ⟨hempty, rfl⟩ | ⟨hname, rfl⟩⟩ := hv
      · exact .noStorageName hs hkey hempty
      · exact .storageName hs hkey hname
    · obtain ⟨⟨haction, hrouting⟩, rfl⟩ := hv
      exact .serverAction haction hrouting
    · obtain ⟨⟨hs, haction, hroute⟩, rfl⟩ := hv
      exact .route hs haction hroute

theorem inOrder_violations (form : Form) : InOrder 0 form.broken form.violations := by
  refine .require rfl ?_ (.cons (fun v hv => hv.le_position.1) (isFirst_fieldViolation? 0 [] _)
    (.require rfl ?_ (.cons (fun v hv => hv.requirement_eq) (isFirst_buttonViolation? 0 _)
    (.require rfl ?_ (.require rfl ?_ (.cons ?_ (.bind isFirst_linkViolation?)
    (.cons ?_ (.bind isFirst_themeViolation?) (.cons ?_ (.bind isFirst_storageViolation?)
    (.require rfl ?_ (.require rfl ?_ .nil))))))))))
  · rw [← isIdentifier_iff, Bool.not_eq_true]
  · simp
  · rw [← Bool.not_eq_true, Bool.and_eq_true, decide_eq_true_eq, decide_eq_true_eq]
  · rw [← isClassList_iff, Bool.not_eq_true]
  · rintro v ⟨l, -, hv⟩
    exact hv.requirement_eq
  · rintro v ⟨t, -, hv⟩
    exact hv.requirement_eq
  · rintro v ⟨s, -, hv⟩
    exact hv.requirement_eq
  · simp
  · simp [and_assoc, Option.isSome_iff_ne_none]

/-- A form is accepted exactly when it breaks no requirement, and otherwise the violation that is
reported is one of the form and comes before all others. -/
theorem validate_first (form : Form) :
    (form.validate = .ok () ↔ ∀ v, ¬form.Breaks v) ∧
    ∀ v, form.validate = .error v ↔ form.Breaks v ∧ ∀ w, form.Breaks w → w = v ∨ v.Before w := by
  have hfirst : IsFirst form.Breaks form.violation? :=
    (inOrder_violations form).isFirst.congr fun v => breaks_iff.symm
  rw [← hfirst.eq_none_iff]
  simp only [← hfirst.eq_some_iff]
  rw [validate]
  cases form.violation? with
  | none => simp
  | some violation => simp

end Form

end FormScaffold
