import FormScaffold.Dialogue.Terminal

/-!
# Dialogues

A dialogue is a tree of questions and messages: which question comes next depends on the answers
so far, and on nothing else.  The results that it can have are those that answers lead to which
its questions let pass (`Dialogue.Reaches`); of a dialogue in two parts they are the results of the
second part for a result of the first (`Dialogue.reaches_bind_iff`).
-/

namespace FormScaffold

inductive Dialogue (α : Type) where
  | done (result : α)
  | ask (q : Question) (next : q.Answer → Dialogue α)
  | tell (message : Message) (next : Dialogue α)

namespace Dialogue

variable {α β : Type}

protected def bind : Dialogue α → (α → Dialogue β) → Dialogue β
  | done a, f => f a
  | ask q next, f => ask q fun answer => (next answer).bind f
  | tell message next, f => tell message (next.bind f)

instance : Monad Dialogue where
  pure := done
  bind := Dialogue.bind

@[simp] theorem pure_eq (a : α) : (pure a : Dialogue α) = done a := rfl

@[simp] theorem bind_eq (d : Dialogue α) (f : α → Dialogue β) : d >>= f = d.bind f := rfl

@[simp] theorem bind_done (a : α) (f : α → Dialogue β) : (done a).bind f = f a := rfl

@[simp] theorem bind_ask (q : Question) (next : q.Answer → Dialogue α) (f : α → Dialogue β) :
    (ask q next).bind f = ask q fun answer => (next answer).bind f := rfl

@[simp] theorem bind_tell (message : Message) (next : Dialogue α) (f : α → Dialogue β) :
    (tell message next).bind f = tell message (next.bind f) := rfl

/-- A dialogue leads to a result by answers that its questions let pass. -/
inductive Reaches : Dialogue α → α → Prop where
  | done (a : α) : Reaches (.done a) a
  | ask {q : Question} {next : q.Answer → Dialogue α} {a : α} (answer : q.Answer)
      (admitted : q.Admits answer) (rest : Reaches (next answer) a) : Reaches (.ask q next) a
  | tell {message : Message} {next : Dialogue α} {a : α} (rest : Reaches next a) :
      Reaches (.tell message next) a

@[simp] theorem reaches_done_iff {a b : α} : Reaches (.done a) b ↔ b = a := by
  constructor
  · rintro ⟨⟩
    rfl
  · rintro rfl
    exact .done b

@[simp] theorem reaches_ask_iff {q : Question} {next : q.Answer → Dialogue α} {a : α} :
    Reaches (.ask q next) a ↔ ∃ answer, q.Admits answer ∧ Reaches (next answer) a := by
  constructor
  · rintro (_ | ⟨answer, admitted, rest⟩)
    exact ⟨answer, admitted, rest⟩
  · rintro ⟨answer, admitted, rest⟩
    exact .ask answer admitted rest

@[simp] theorem reaches_tell_iff {message : Message} {next : Dialogue α} {a : α} :
    Reaches (.tell message next) a ↔ Reaches next a := by
  constructor
  · rintro (_ | _ | rest)
    exact rest
  · exact .tell

/-- A dialogue in two parts leads to what the second part leads to from a result of the first. -/
theorem reaches_bind_iff {d : Dialogue α} {f : α → Dialogue β} {b : β} :
    Reaches (d.bind f) b ↔ ∃ a, Reaches d a ∧ Reaches (f a) b := by
  induction d with
  | done a => simp
  | ask q next ih =>
    simp only [bind_ask, reaches_ask_iff, ih]
    constructor
    · rintro ⟨answer, admitted, a, first, second⟩
      exact ⟨a, ⟨answer, admitted, first⟩, second⟩
    · rintro ⟨a, ⟨answer, admitted, first⟩, second⟩
      exact ⟨answer, admitted, a, first, second⟩
  | tell message next ih => simp [ih]

/-! ## Single questions -/

/-- Shows a message. -/
def say (message : Message) : Dialogue Unit := tell message (done ())

def text (q : TextQuestion) : Dialogue String := ask (.text q) done

def yesNo (prompt : String) (initial : Bool) : Dialogue Bool := ask (.yesNo prompt initial) done

/-- Asks for one of several things by their names. -/
def choose [DecidableEq α] (prompt : String) (all : List α) (name : α → String) (initial : α) :
    Dialogue α :=
  ask (.choice prompt (all.map name) (all.idxOf initial)) fun i => done (all[i]?.getD initial)

/-! ## Running -/

/-- Holds a dialogue at a terminal. -/
def run {m : Type → Type} [Monad m] [Terminal m] : Dialogue α → m (Except AskError α)
  | done a => return .ok a
  | ask q next => do
    match ← Terminal.ask q fun _ => pure none with
    | .ok answer => (next answer).run
    | .error error => return .error error
  | tell message next => do
    Terminal.tell message
    next.run

end Dialogue

end FormScaffold
