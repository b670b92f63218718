import FormScaffold.Artifact.Generate
import FormScaffold.Artifact.Write
import FormScaffold.Dialogue.Terminal
import FormScaffold.Snapshot.Load

/-!
# Failures of a session

A failure is told as a chain of texts, from what was attempted down to the last cause.
-/

namespace FormScaffold

/-- Why a session ends without its files. -/
inductive Failure where
  | load (error : LoadError)
  | generate (form : String) (error : GenerateError)
  | write (error : WriteError)
  | ask (error : AskError)
  /-- The form is not valid, which has been shown already -/
  | invalidForm
  /-- Files are not to be overwritten -/
  | declined
  /-- No questions may be asked, and there is no saved form -/
  | nothingSaved
deriving DecidableEq, Repr

namespace Failure

/-- The texts of a failure and its causes. -/
def chain : Failure → List String
  | load error => error.message :: error.cause?.toList
  | generate form error =>
    [ "Failed to generate form '" ++ form ++ "'", error.message ] ++
      match error with
      | .invalid violation => [violation.message]
      | .inconsistent _ _ => []
  | write error => ["Failed to write generated files", error.message, error.fault.message]
  | ask error => [error.message]
  | invalidForm => ["The form configuration is invalid."]
  | declined => ["Generation cancelled."]
  | nothingSaved => ["--yes needs a saved configuration; pass one with --config <path>"]

/-- A text in which every line but the first is moved in. -/
def hanging (margin text : String) : String :=
  ("\n" ++ margin).intercalate ((Text.split (· = '\n') text.toList).map String.ofList)

/-- The lines about some causes, numbered if there are several. -/
def causeLines : List String → List String
  | [cause] => ["    " ++ hanging "    " cause]
  | causes =>
    causes.zipIdx.map fun (cause, i) =>
      let number := Text.decimal i
      String.ofList (List.replicate (5 - number.length) ' ') ++ number ++ ": " ++
        hanging "       " cause

/-- The report of a failure at the end of a program. -/
def report (failure : Failure) : List String :=
  match failure.chain with
  | [] => []
  | [text] => ["Error: " ++ text]
  | text :: causes => ["Error: " ++ text, "", "Caused by:"] ++ causeLines causes

end Failure

end FormScaffold
