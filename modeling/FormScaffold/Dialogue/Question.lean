/-!
# Questions

A question asks for a text, for one of several options, or for yes or no.  It is answered by
pressing keys, one after another: `Question.press` says what each key does.
-/

namespace FormScaffold

/-- A question for a text. -/
structure TextQuestion where
  prompt : String
  /-- What stands in the empty line as an example -/
  hint : String
  /-- The answer that an empty line stands for -/
  fallback : Option String
  required : Bool
  /-- Why a text is refused -/
  refusal? : String → Option String

/-- The text that an empty line stands for, if an empty line may be submitted. -/
def TextQuestion.ofEmpty? (q : TextQuestion) : Option String :=
  match q.fallback with
  | some s => some s
  | none => if q.required then none else some ""

inductive Question where
  | text (question : TextQuestion)
  | choice (prompt : String) (options : List String) (initial : Nat)
  | yesNo (prompt : String) (initial : Bool)

/-- What a question is answered with: a text, the number of an option, or yes or no. -/
abbrev Question.Answer : Question → Type
  | text _ => String
  | choice _ _ _ => Nat
  | yesNo _ _ => Bool

/-- The answers that a question lets pass. -/
def Question.Admits : (q : Question) → q.Answer → Prop
  | text q, s => q.refusal? s = none ∧ (s = "" → q.ofEmpty? = some "")
  | choice _ options _, i => i < options.length
  | yesNo _ _, _ => True

/-! ## Keys -/

inductive Key where
  | char (c : Char)
  | enter
  | backspace
  | escape
  /-- Any other control character -/
  | other
deriving DecidableEq, Repr

def Key.ofChar (c : Char) : Key :=
  if c = '\n' ∨ c = '\r' then enter
  else if c = '\x08' ∨ c = '\x7f' then backspace
  else if c = '\x1b' then escape
  else if c.toNat < 0x20 then other
  else char c

/-! ## Answering -/

namespace Question

/-- What has been entered: the characters of a line with the last one first, the number of the
marked option, or the marked answer. -/
abbrev State : Question → Type
  | text _ => List Char
  | choice _ _ _ => Nat
  | yesNo _ _ => Bool

def start : (q : Question) → q.State
  | text _ => []
  | choice _ _ initial => initial
  | yesNo _ initial => initial

/-- What comes of a key. -/
inductive Pressed (q : Question) where
  | entering (state : q.State)
  | answered (answer : q.Answer) (state : q.State)
  | refused (message : String) (state : q.State)
  | cancelled

/-- Submits a text, which may be refused. -/
def submitText (q : TextQuestion) (state : List Char) : Pressed (text q) :=
  let s := String.ofList state.reverse
  match q.refusal? s with
  | some message => .refused message state
  | none => .answered s state

/-- Submits a line.  An empty one may stand for another text, which is then what is entered. -/
def submitLine (q : TextQuestion) (state : List Char) : Pressed (text q) :=
  if state.isEmpty then
    match q.ofEmpty? with
    | some s => submitText q s.toList.reverse
    | none => .refused "Input required" state
  else submitText q state

def pressText (q : TextQuestion) (state : List Char) : Key → Pressed (text q)
  | .char c => .entering (c :: state)
  | .backspace => .entering state.tail
  | .enter => submitLine q state
  | .escape => .cancelled
  | .other => .entering state

/-- Whether a key moves on, or back. -/
def isForward (c : Char) : Bool := c = 'j' || c = 'l'

def isBackward (c : Char) : Bool := c = 'k' || c = 'h'

def pressChoice (prompt : String) (options : List String) (initial state : Nat) :
    Key → Pressed (choice prompt options initial)
  | .char c =>
    if isForward c then .entering (if state + 1 < options.length then state + 1 else state)
    else if isBackward c then .entering (state - 1)
    else .entering state
  | .enter => .answered state state
  | .escape => .cancelled
  | _ => .entering state

def pressYesNo (prompt : String) (initial state : Bool) : Key → Pressed (yesNo prompt initial)
  | .char c =>
    if c = 'y' || c = 'Y' then .answered true true
    else if c = 'n' || c = 'N' then .answered false false
    else if isForward c || isBackward c then .entering (!state)
    else .entering state
  | .enter => .answered state state
  | .escape => .cancelled
  | _ => .entering state

/-- What a key does. -/
def press : (q : Question) → q.State → Key → Pressed q
  | text q, state, key => pressText q state key
  | choice prompt options initial, state, key => pressChoice prompt options initial state key
  | yesNo prompt initial, state, key => pressYesNo prompt initial state key

/-! ## Answers are admitted -/

/-- What has been entered can be: the marked option is one of the options. -/
def Fits : (q : Question) → q.State → Prop
  | text _, _ => True
  | choice _ options _, i => i < options.length
  | yesNo _ _, _ => True

theorem submitText_answered {q : TextQuestion} {state after : List Char} {s : String}
    (h : submitText q state = .answered s after) :
    q.refusal? s = none ∧ s = String.ofList state.reverse := by
  simp only [submitText] at h
  split at h
  · cases h
  · next accepted =>
    cases h
    exact ⟨accepted, rfl⟩

theorem submitLine_answered {q : TextQuestion} {state after : List Char} {s : String}
    (h : submitLine q state = .answered s after) : (text q).Admits s := by
  simp only [submitLine] at h
  split at h
  · split at h
    · next entered =>
      obtain ⟨accepted, rfl⟩ := submitText_answered h
      refine ⟨accepted, fun empty => ?_⟩
      rw [List.reverse_reverse, String.ofList_toList] at empty
      rw [entered, empty]
    · cases h
  · next filled =>
    obtain ⟨accepted, rfl⟩ := submitText_answered h
    refine ⟨accepted, fun empty => absurd ?_ filled⟩
    simpa using congrArg String.toList empty

/-- A character moves the mark from one option to another. -/
theorem pressChoice_char {prompt : String} {options : List String} {initial state : Nat} (c : Char)
    (fits : state < options.length) :
    ∃ after, pressChoice prompt options initial state (.char c) = .entering after ∧
      after < options.length := by
  unfold pressChoice
  dsimp only
  split
  · refine ⟨_, rfl, ?_⟩
    split <;> assumption
  · split
    · exact ⟨_, rfl, Nat.lt_of_le_of_lt (Nat.sub_le _ _) fits⟩
    · exact ⟨_, rfl, fits⟩

/-- A key can only give an answer that the question lets pass. -/
theorem admits_of_press {q : Question} {state after : q.State} {key : Key} {a : q.Answer}
    (fits : q.Fits state) (h : q.press state key = .answered a after) : q.Admits a := by
  cases q with
  | text q =>
    cases key with
    | enter => exact submitLine_answered h
    | _ => cases h
  | choice prompt options initial =>
    cases key with
    | enter =>
      cases h
      exact fits
    | char c =>
      obtain ⟨_, pressed, -⟩ := pressChoice_char c fits
      cases pressed.symm.trans h
    | _ => cases h
  | yesNo prompt initial => trivial

/-- A key keeps what has been entered among what can be. -/
theorem fits_of_press {q : Question} {state after : q.State} {key : Key}
    (fits : q.Fits state) (h : q.press state key = .entering after) : q.Fits after := by
  cases q with
  | text q => trivial
  | choice prompt options initial =>
    cases key with
    | char c =>
      obtain ⟨_, pressed, moved⟩ := pressChoice_char c fits
      cases pressed.symm.trans h
      exact moved
    | enter => cases h
    | escape => cases h
    | backspace =>
      cases h
      exact fits
    | other =>
      cases h
      exact fits
  | yesNo prompt initial => trivial

/-- Only a text is refused, and it stays what has been entered. -/
theorem fits_of_refused {q : Question} {state after : q.State} {key : Key} {message : String}
    (fits : q.Fits state) (h : q.press state key = .refused message after) : q.Fits after := by
  cases q with
  | text q => trivial
  | choice prompt options initial =>
    cases key with
    | char c =>
      obtain ⟨_, pressed, -⟩ := pressChoice_char c fits
      cases pressed.symm.trans h
    | _ => cases h
  | yesNo prompt initial => trivial

/-! ## Pressing keys -/

variable {m : Type → Type} [Monad m]

/-- Answers a question with some keys, and returns the answer, unless the question was cancelled,
with the keys that are left.  An answer must pass a check; what is refused is reported and can be
corrected.  Where the keys end, the question is cancelled. -/
def answer (q : Question) (check : q.Answer → m (Option String)) (refuse : String → m Unit) :
    q.State → List Key → m (Option q.Answer × List Key)
  | _, [] => return (none, [])
  | state, key :: keys =>
    match q.press state key with
    | .entering state => answer q check refuse state keys
    | .refused message state => do
      refuse message
      answer q check refuse state keys
    | .cancelled => return (none, keys)
    | .answered a state => do
      match ← check a with
      | none => return (some a, keys)
      | some message =>
        refuse message
        answer q check refuse state keys

end Question

end FormScaffold
