import FormScaffold.Form.Questions

/-!
# Dialogues at a terminal

Keys are pressed until a question has an answer, and then the next one is asked.  Whatever the keys
are, a dialogue comes to an end, and a result that it has then comes of answers that its questions
let pass (`Dialogue.run_reaches`).  For each such result there are keys that lead to it
(`Dialogue.reaches_iff_run`).  Both need that what each question begins with can be entered
(`Dialogue.WellPosed`), which is shown question by question.
-/

namespace FormScaffold

variable {m : Type → Type} [Monad m]

@[simp] theorem Screen.run_tell (message : Message) (screen : Screen) :
    (tell message : StateT Screen m Unit).run screen =
      pure ((), { screen with told := message :: screen.told }) := rfl

theorem Screen.terminal_ask (q : Question) (check : q.Answer → StateT Screen m (Option String)) :
    Terminal.ask q check = ask q check := rfl

/-! ## Keys that give an answer -/

namespace Question

/-- Keys that give an answer: a text is typed, and the mark goes to the first option and from there
to the one that is meant. -/
def keysOf : (q : Question) → q.Answer → List Key
  | text _, s => s.toList.map .char ++ [.enter]
  | choice _ _ initial, i =>
    List.replicate initial (.char 'k') ++ (List.replicate i (.char 'j') ++ [.enter])
  | yesNo _ _, yes => [.char (if yes then 'y' else 'n')]

section

variable {q : Question} {check : q.Answer → m (Option String)} {refuse : String → m Unit}

theorem answer_of_entering {state after : q.State} {key : Key}
    (h : q.press state key = .entering after) (keys : List Key) :
    q.answer check refuse state (key :: keys) = q.answer check refuse after keys := by
  rw [answer, h]

theorem answer_of_answered [LawfulMonad m] {state after : q.State} {key : Key} {a : q.Answer}
    (h : q.press state key = .answered a after) (hcheck : check a = pure none) (keys : List Key) :
    q.answer check refuse state (key :: keys) = pure (some a, keys) := by
  rw [answer, h]
  simp [hcheck]

end

section

variable {refuse : String → m Unit}

theorem answer_chars (q : TextQuestion) {check : String → m (Option String)}
    (cs state : List Char) (keys : List Key) :
    (text q).answer check refuse state (cs.map .char ++ keys) =
      (text q).answer check refuse (cs.reverse ++ state) keys := by
  induction cs generalizing state with
  | nil => rfl
  | cons c cs ih =>
    rw [List.map_cons, List.cons_append, answer_of_entering rfl, ih, List.reverse_cons,
      List.append_assoc, List.singleton_append]

variable (prompt : String) {options : List String} (initial : Nat)
  {check : Nat → m (Option String)}

theorem answer_backward (n state : Nat) (keys : List Key) :
    (choice prompt options initial).answer check refuse state
        (List.replicate n (.char 'k') ++ keys) =
      (choice prompt options initial).answer check refuse (state - n) keys := by
  induction n generalizing state with
  | zero => rfl
  | succ n ih =>
    rw [List.replicate_succ, List.cons_append, answer_of_entering rfl, ih, Nat.sub_sub,
      Nat.add_comm]

theorem answer_forward {n state : Nat} (h : state + n < options.length) (keys : List Key) :
    (choice prompt options initial).answer check refuse state
        (List.replicate n (.char 'j') ++ keys) =
      (choice prompt options initial).answer check refuse (state + n) keys := by
  induction n generalizing state with
  | zero => rfl
  | succ n ih =>
    have hnext : state + 1 < options.length := by omega
    have hpress : (choice prompt options initial).press state (.char 'j') =
        .entering (if state + 1 < options.length then state + 1 else state) := rfl
    rw [if_pos hnext] at hpress
    rw [List.replicate_succ, List.cons_append, answer_of_entering hpress, ih (by omega),
      Nat.add_assoc, Nat.add_comm 1 n]

end

/-- A line with a text that is let pass gives this text. -/
theorem submitLine_of_admits {q : TextQuestion} {s : String} (h : (text q).Admits s) :
    submitLine q s.toList.reverse = .answered s s.toList.reverse := by
  obtain ⟨haccepted, hempty⟩ := h
  have hsubmit : submitText q s.toList.reverse = .answered s s.toList.reverse := by
    simp [submitText, haccepted]
  rw [submitLine]
  split
  · next hnone =>
    have hs : s = "" := by simpa using hnone
    subst hs
    rw [hempty rfl]
    exact hsubmit
  · exact hsubmit

/-- Each answer that a question lets pass is given by some keys, and the next question has the keys
behind them. -/
theorem answer_keysOf [LawfulMonad m] {q : Question} {check : q.Answer → m (Option String)}
    {refuse : String → m Unit} {a : q.Answer} (h : q.Admits a) (hcheck : check a = pure none)
    (keys : List Key) :
    q.answer check refuse q.start (q.keysOf a ++ keys) = pure (some a, keys) := by
  cases q with
  | text q =>
    have hpress : (text q).press (a.toList.reverse ++ (text q).start) .enter =
        .answered a a.toList.reverse := by
      rw [start, List.append_nil]
      exact submitLine_of_admits h
    rw [keysOf, List.append_assoc, answer_chars]
    exact answer_of_answered hpress hcheck keys
  | choice prompt options initial =>
    -- The mark stops at the first option, which it reaches from where it begins.
    have hmoves : 0 + a < options.length := (Nat.zero_add a).symm ▸ h
    rw [keysOf, List.append_assoc, List.append_assoc, answer_backward, start, Nat.sub_self,
      answer_forward prompt initial hmoves, Nat.zero_add]
    exact answer_of_answered rfl hcheck keys
  | yesNo prompt initial =>
    have hpress : (yesNo prompt initial).press initial (.char (if a then 'y' else 'n')) =
        .answered a a := by
      cases a <;> rfl
    exact answer_of_answered hpress hcheck keys

/-! ## Answers that keys give -/

/-- Keys come to an answer that the question lets pass, or to none. -/
theorem run_answer [LawfulMonad m] {q : Question} {state : q.State} (fits : q.Fits state)
    (keys : List Key) (screen : Screen) :
    ∃ answer left after,
      (q.answer (fun _ => pure none) (fun text => Screen.tell (.refusal text)) state keys :
        StateT Screen m _).run screen = pure ((answer, left), after) ∧
      ∀ a, answer = some a → q.Admits a := by
  induction keys generalizing state screen with
  | nil => exact ⟨none, [], screen, rfl, by simp⟩
  | cons key keys ih =>
    rw [answer]
    cases hpress : q.press state key with
    | entering after => exact ih (fits_of_press fits hpress) screen
    | refused message after =>
      obtain ⟨answer, left, last, hrun, hadmits⟩ := ih (fits_of_refused fits hpress)
        { screen with told := .refusal message :: screen.told }
      refine ⟨answer, left, last, ?_, hadmits⟩
      simpa using hrun
    | cancelled => exact ⟨none, keys, screen, rfl, by simp⟩
    | answered a after =>
      refine ⟨some a, keys, screen, by simp, ?_⟩
      rintro _ ⟨⟩
      exact admits_of_press fits hpress

end Question

namespace Dialogue

variable {α β : Type}

/-! ## Questions that begin with what can be entered -/

/-- Every question that can come up begins with something that can have been entered. -/
def WellPosed : Dialogue α → Prop
  | done _ => True
  | ask q next => q.Fits q.start ∧ ∀ answer, (next answer).WellPosed
  | tell _ next => next.WellPosed

theorem WellPosed.bind {d : Dialogue α} {f : α → Dialogue β} (h : d.WellPosed)
    (hf : ∀ a, (f a).WellPosed) : (d >>= f).WellPosed := by
  induction d with
  | done a => exact hf a
  | ask q next ih => exact ⟨h.1, fun answer => ih answer (h.2 answer)⟩
  | tell message next ih => exact ih h

theorem WellPosed.ite {c : Prop} [Decidable c] {d e : Dialogue α} (hd : d.WellPosed)
    (he : e.WellPosed) : (if c then d else e).WellPosed := by
  split
  · exact hd
  · exact he

theorem wellPosed_say (message : Message) : (say message).WellPosed := True.intro

/-- A line begins empty, whatever is asked for. -/
theorem wellPosed_text (q : TextQuestion) : (text q).WellPosed :=
  ⟨True.intro, fun _ => True.intro⟩

theorem wellPosed_yesNo (prompt : String) (initial : Bool) : (yesNo prompt initial).WellPosed :=
  ⟨True.intro, fun _ => True.intro⟩

/-- The mark begins at one of the options. -/
theorem wellPosed_choose [DecidableEq α] (prompt : String) {all : List α} (name : α → String)
    {initial : α} (h : initial ∈ all) : (choose prompt all name initial).WellPosed := by
  have hmark : all.idxOf initial < (all.map name).length := by
    rw [List.length_map]
    exact List.idxOf_lt_length_of_mem h
  exact ⟨hmark, fun _ => True.intro⟩

theorem wellPosed_trimmed (prompt hint : String) (refusal? : String → Option String) :
    (trimmed prompt hint refusal?).WellPosed :=
  (wellPosed_text _).bind fun _ => True.intro

theorem wellPosed_count (prompt message : String) (bound : Option Nat) :
    (count prompt message bound).WellPosed :=
  (wellPosed_text _).bind fun _ => True.intro

/-! ## Runs -/

variable [LawfulMonad m]

/-- What a terminal makes of an answer, or of none, when some keys are left. -/
def outcome {q : Question} (answer : Option q.Answer) (left : List Key) (screen : Screen) :
    Except AskError q.Answer × Screen :=
  match answer with
  | some a => (.ok a, { screen with keys := some left })
  | none => (.error .interrupted,
      { screen with keys := some left, told := .cancelled :: screen.told })

theorem run_ask_of_answer {q : Question} {screen after : Screen} {keys left : List Key}
    {answer : Option q.Answer} (hkeys : screen.keys = some keys)
    (hrun : (q.answer (fun _ => pure none) (fun text => Screen.tell (.refusal text)) q.start keys :
      StateT Screen m _).run screen = pure ((answer, left), after)) :
    (Terminal.ask q fun _ => pure none : StateT Screen m _).run screen =
      pure (outcome answer left after) := by
  rw [Screen.terminal_ask, Screen.ask]
  cases answer with
  | none => simp [hkeys, hrun, outcome]
  | some a => simp [hkeys, hrun, outcome]

/-- A question comes to an end, whatever keys there are. -/
theorem run_ask {q : Question} (fits : q.Fits q.start) (screen : Screen) :
    ∃ result after, (Terminal.ask q fun _ => pure none : StateT Screen m _).run screen =
        pure (result, after) ∧ ∀ a, result = .ok a → q.Admits a := by
  cases hkeys : screen.keys with
  | none =>
    refine ⟨.error .notConnected, screen, ?_, by simp⟩
    simp [Screen.terminal_ask, Screen.ask, hkeys]
  | some keys =>
    obtain ⟨answer, left, after, hrun, hadmits⟩ := Question.run_answer (m := m) fits keys screen
    refine ⟨_, _, run_ask_of_answer hkeys hrun, ?_⟩
    cases answer with
    | none => simp
    | some a =>
      rintro _ ⟨⟩
      exact hadmits a rfl

/-- A dialogue comes to an end, whatever keys there are, and a result that it has is one that
answers lead to which its questions let pass. -/
theorem run_reaches {d : Dialogue α} (h : d.WellPosed) (screen : Screen) :
    ∃ result after, (d.run : StateT Screen m _).run screen = pure (result, after) ∧
      ∀ a, result = .ok a → d.Reaches a := by
  induction d generalizing screen with
  | done a =>
    refine ⟨.ok a, screen, rfl, ?_⟩
    rintro _ ⟨⟩
    exact .done a
  | ask q next ih =>
    obtain ⟨answer, after, hrun, hadmits⟩ := run_ask (m := m) h.1 screen
    cases answer with
    | error error => exact ⟨.error error, after, by simp [Dialogue.run, hrun], by simp⟩
    | ok answer =>
      obtain ⟨result, last, hrest, hreaches⟩ := ih answer (h.2 answer) after
      exact ⟨result, last, by simp [Dialogue.run, hrun, hrest],
        fun a ha => .ask answer (hadmits answer rfl) (hreaches a ha)⟩
  | tell message next ih =>
    obtain ⟨result, after, hrest, hreaches⟩ :=
      ih h { screen with told := message :: screen.told }
    refine ⟨result, after, ?_, fun a ha => .tell (hreaches a ha)⟩
    simpa [Dialogue.run, Terminal.tell] using hrest

/-- What a dialogue reaches is the result for some keys. -/
theorem Reaches.exists_keys {d : Dialogue α} {a : α} (h : d.Reaches a) :
    ∃ keys, ∀ screen : Screen, screen.keys = some keys →
      ∃ after, (d.run : StateT Screen m _).run screen = pure (.ok a, after) := by
  induction h with
  | done a => exact ⟨[], fun screen _ => ⟨screen, rfl⟩⟩
  | @ask q next a answer admitted rest ih =>
    obtain ⟨keys, hkeys⟩ := ih
    refine ⟨q.keysOf answer ++ keys, fun screen hscreen => ?_⟩
    have hanswer : (q.answer (fun _ => pure none) (fun text => Screen.tell (.refusal text)) q.start
        (q.keysOf answer ++ keys) : StateT Screen m _).run screen =
          pure ((some answer, keys), screen) := by
      rw [Question.answer_keysOf admitted rfl, StateT.run_pure]
    have hask := run_ask_of_answer hscreen hanswer
    obtain ⟨after, hrest⟩ := hkeys { screen with keys := some keys } rfl
    exact ⟨after, by simp [Dialogue.run, hask, outcome, hrest]⟩
  | @tell message next a rest ih =>
    obtain ⟨keys, hkeys⟩ := ih
    refine ⟨keys, fun screen hscreen => ?_⟩
    obtain ⟨after, hrest⟩ := hkeys { screen with told := message :: screen.told } hscreen
    exact ⟨after, by simpa [Dialogue.run, Terminal.tell] using hrest⟩

/-- A dialogue reaches exactly the results that it can have at a terminal. -/
theorem reaches_iff_run {d : Dialogue α} (h : d.WellPosed) {a : α} :
    d.Reaches a ↔ ∃ keys after,
      (d.run : StateM Screen _).run (.withKeys (some keys)) = (.ok a, after) := by
  constructor
  · intro hreaches
    obtain ⟨keys, hkeys⟩ := hreaches.exists_keys (m := Id)
    obtain ⟨after, hrun⟩ := hkeys (.withKeys (some keys)) rfl
    exact ⟨keys, after, hrun⟩
  · rintro ⟨keys, after, hrun⟩
    obtain ⟨result, last, hrun', hreaches⟩ :=
      run_reaches (m := Id) h (.withKeys (some keys))
    have hsame : (result, last) = (.ok a, after) := hrun'.symm.trans hrun
    exact hreaches a (congrArg Prod.fst hsame)

end Dialogue

theorem wellPosed_ifWanted {α : Type} (prompt : String) {question : Dialogue α}
    (h : question.WellPosed) : (ifWanted prompt question).WellPosed :=
  (Dialogue.wellPosed_yesNo _ _).bind fun _ => .ite (h.bind fun _ => True.intro) True.intro

end FormScaffold
