import FormScaffold.Dialogue.Question

/-!
# Terminals

What a program shows and asks.  A program that is written against `Terminal` runs on a real
terminal and on a screen, which keeps all that is shown and presses keys that are given beforehand.
-/

namespace FormScaffold

/-- A message of a dialogue. -/
inductive Message where
  | intro (text : String)
  | step (text : String)
  | info (text : String)
  | success (text : String)
  | warning (text : String)
  | error (text : String)
  /-- How far a longer task has come -/
  | progress (text : String)
  /-- Why an answer is refused -/
  | refusal (text : String)
  /-- A question was not answered -/
  | cancelled
  | outro (text : String)
deriving DecidableEq, Repr

def Message.text : Message → String
  | intro text | step text | info text | success text | warning text | error text
  | progress text | refusal text | outro text => text
  | cancelled => "Operation cancelled."

/-- Why a question is not answered. -/
inductive AskError where
  | interrupted
  /-- There is nobody to ask -/
  | notConnected
deriving DecidableEq, Repr

def AskError.message : AskError → String
  | interrupted => "operation interrupted"
  | notConnected => "not connected"

/-- The operations of a terminal. -/
class Terminal (m : Type → Type) where
  /-- Writes a line of output -/
  printLine : String → m Unit
  /-- Writes a line beside the output -/
  warnLine : String → m Unit
  tell : Message → m Unit
  /-- Asks a question, whose answer must pass a check -/
  ask : (q : Question) → (q.Answer → m (Option String)) → m (Except AskError q.Answer)

/-- What has been shown so far, with the latest first, and the keys that will be pressed. -/
structure Screen where
  /-- Nothing can be asked without keys -/
  keys : Option (List Key)
  printed : List String
  warned : List String
  told : List Message

namespace Screen

/-- An empty screen. -/
def withKeys (keys : Option (List Key)) : Screen := ⟨keys, [], [], []⟩

/-- Lines of output as one text. -/
def textOf (lines : List String) : String := String.join (lines.reverse.map (· ++ "\n"))

/-- The output. -/
def output (screen : Screen) : String := textOf screen.printed

/-- What was written beside the output. -/
def warnings (screen : Screen) : String := textOf screen.warned

variable {m : Type → Type} [Monad m]

def tell (message : Message) : StateT Screen m Unit :=
  modify fun screen => { screen with told := message :: screen.told }

/-- Asks a question with the keys that are left. -/
def ask (q : Question) (check : q.Answer → StateT Screen m (Option String)) :
    StateT Screen m (Except AskError q.Answer) := do
  match (← get).keys with
  | none => return .error .notConnected
  | some keys =>
    let (answer, left) ← q.answer check (fun text => tell (.refusal text)) q.start keys
    modify fun screen => { screen with keys := some left }
    match answer with
    | some a => return .ok a
    | none =>
      tell .cancelled
      return .error .interrupted

instance : Terminal (StateT Screen m) where
  printLine line := modify fun screen => { screen with printed := line :: screen.printed }
  warnLine line := modify fun screen => { screen with warned := line :: screen.warned }
  tell := tell
  ask := ask

end Screen

end FormScaffold
