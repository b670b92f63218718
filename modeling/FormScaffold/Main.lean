import FormScaffold.CommandLine

/-!
# The program

Runs the command line on the real files and the real terminal.  An answer is a line: its keys are
pressed one after another, and what is left of it when the question is answered is dropped.
-/

namespace FormScaffold.Main

/-! ## Files -/

/-- The fault with an error number. -/
def faultOfCode (code : UInt32) (details : String) : Fault :=
  if code = 2 then .notFound
  else if code = 17 then .alreadyExists
  else if code = 20 then .notDirectory
  else if code = 21 then .isDirectory
  else if code = 36 then .nameTooLong
  else .other (details ++ " (os error " ++ toString code ++ ")")

def faultOf : IO.Error → Fault
  | .alreadyExists _ code details | .otherError code details | .resourceBusy code details
  | .resourceVanished code details | .unsupportedOperation code details
  | .hardwareFault code details | .unsatisfiedConstraints code details
  | .illegalOperation code details | .protocolError code details | .timeExpired code details
  | .interrupted _ code details | .noFileOrDirectory _ code details
  | .invalidArgument _ code details | .permissionDenied _ code details
  | .resourceExhausted _ code details | .inappropriateType _ code details
  | .noSuchThing _ code details => faultOfCode code details
  | .unexpectedEof => .other "unexpected end of file"
  | .userError message => .other message

/-- The result of an action, or the fault that it met. -/
def attempt {α : Type} (action : IO α) : IO (Except Fault α) := do
  match ← action.toBaseIO with
  | .ok a => return .ok a
  | .error error => return .error (faultOf error)

def kindOf : IO.FS.FileType → FileKind
  | .dir => .directory
  | .file => .file
  | _ => .other

instance : FileAccess IO where
  currentDirectory := return Path.ofString (← IO.currentDir).toString
  kind path := attempt do return kindOf (← (System.mkFilePath [path.text]).metadata).type
  read path := attempt (IO.FS.readBinFile path.text)
  write path bytes := attempt (IO.FS.writeBinFile path.text bytes)
  makeDirectory path := attempt (IO.FS.createDir path.text)
  rename source target := attempt (IO.FS.rename source.text target.text)
  remove path := attempt (IO.FS.removeFile path.text)
  list path := attempt do
    let entries ← (System.mkFilePath [path.text]).readDir
    entries.toList.mapM fun entry => do
      return (entry.fileName, kindOf (← entry.path.symlinkMetadata).type)

/-! ## The terminal -/

/-- How a question is shown. -/
def display : Question → String
  | .text q =>
    let usual := q.fallback.getD q.hint
    if usual = "" then q.prompt else q.prompt ++ " (" ++ usual ++ ")"
  | .choice prompt options initial =>
    prompt ++ " (" ++ ", ".intercalate options ++ "; " ++ options[initial]?.getD "" ++ ")"
  | .yesNo prompt initial => prompt ++ (if initial then " (Y/n)" else " (y/N)")

def tell (message : Message) : IO Unit := IO.eprintln message.text

/-- What has come of the keys of a line. -/
inductive Progress (q : Question) where
  | entering (state : q.State)
  | answered (answer : q.Answer)
  | cancelled

/-- Presses the keys of a line. -/
def pressLine (q : Question) (check : q.Answer → IO (Option String)) :
    q.State → List Key → IO (Progress q)
  | state, [] => return .entering state
  | state, key :: keys =>
    match q.press state key with
    | .entering state => pressLine q check state keys
    | .refused message state => do
      tell (.refusal message)
      pressLine q check state keys
    | .cancelled => return .cancelled
    | .answered answer state => do
      match ← check answer with
      | none => return .answered answer
      | some message =>
        tell (.refusal message)
        pressLine q check state keys

/-- Reads lines until one answers a question. -/
partial def askLines (q : Question) (check : q.Answer → IO (Option String)) :
    IO (Except AskError q.Answer) := do
  let line ← (← IO.getStdin).getLine
  let keys := if line.isEmpty then [Key.escape] else line.toList.map Key.ofChar
  match ← pressLine q check q.start keys with
  | .answered answer => return .ok answer
  | .entering _ => askLines q check
  | .cancelled =>
    tell .cancelled
    return .error .interrupted

instance : Terminal IO where
  printLine line := IO.println line
  warnLine line := IO.eprintln line
  tell := tell
  ask q check := do
    if ← (← IO.getStdin).isTty then
      IO.eprintln (display q)
      askLines q check
    else return .error .notConnected

end FormScaffold.Main

/-- Runs the program on its arguments. -/
def main (arguments : List String) : IO UInt32 := do
  FormScaffold.CommandLine.run arguments (← IO.getEnv FormScaffold.Settings.directoryVariable)
