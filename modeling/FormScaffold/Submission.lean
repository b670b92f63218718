import FormScaffold.Code
import FormScaffold.Naming
import FormScaffold.Text.Quoted

/-!
# Submitting a form

How the generated component submits its data, and the body of its submit handler.  The loading
flag is released in a `finally` block, so that it is reset on every way out.
-/

namespace FormScaffold

open Quoted (literal)

/-- Where submitted data goes: to the server action, to the API route, or to the console. -/
inductive Strategy where
  | serverAction | apiRoute | console
deriving DecidableEq, Repr

/-- A strategy and how the handler keeps the user informed. -/
structure Submission where
  strategy : Strategy
  loadingState : Bool
  errorDisplay : Bool
  successMessage : String
  errorMessage : String
deriving DecidableEq, Repr

/-- The strategy of a form: the server action if there is one, else the API route if data is
stored, else the console. -/
def Form.strategy (form : Form) : Strategy :=
  if form.serverAction then .serverAction
  else if form.storage.isSome then .apiRoute
  else .console

def Form.submission (form : Form) : Submission where
  strategy := form.strategy
  loadingState := form.loadingState
  errorDisplay := form.errorDisplay
  successMessage := form.successMessage
  errorMessage := form.errorMessage

namespace Submission

/-- The state of the component that the handler sets. -/
def stateHooks (submission : Submission) : Code :=
  .seq
    [ .when submission.loadingState
        (.line "const [isSubmitting, setIsSubmitting] = useState(false);"),
      .when submission.errorDisplay (.line "const [error, setError] = useState(\"\");"),
      .line "const [successMessage, setSuccessMessage] = useState(\"\");" ]

/-- What happens after a success. -/
def onSuccess (submission : Submission) : Code :=
  .seq
    [ .line ("setSuccessMessage(" ++ literal submission.successMessage ++ ");"),
      .line "form.reset();" ]

/-- A result that reports a failure is thrown as an error. -/
def checkResult (submission : Submission) : Code :=
  .block "if (!result.success) \x7b"
    (.line ("throw new Error(result.error || " ++ literal submission.errorMessage ++ ");"))
    "\x7d"

/-- The calls of the strategy. -/
def attempt (submission : Submission) (names : Naming) : Code :=
  match submission.strategy with
  | .serverAction =>
    .seq
      [ .line ("const result = await " ++ names.actionSymbol ++ "(data);"),
        submission.checkResult,
        submission.onSuccess ]
  | .apiRoute =>
    .seq
      [ .block ("const response = await fetch(" ++ literal names.routeUrl ++ ", \x7b")
          (.seq
            [ .line "method: \"POST\",",
              .line "headers: \x7b \"Content-Type\": \"application/json\" \x7d,",
              .line "body: JSON.stringify(data)," ])
          "\x7d);",
        .line "const result = await response.json();",
        submission.checkResult,
        submission.onSuccess ]
  | .console =>
    .seq
      [ .line ("console.log(" ++ literal (names.form ++ " submission:") ++ ", data);"),
        submission.onSuccess ]

/-- What happens after an error. -/
def onError (submission : Submission) : Code :=
  .seq
    [ .line "console.error(\"Form submission error:\", error);",
      .when submission.errorDisplay
        (.line ("setError(error instanceof Error && error.message ? error.message : " ++
          literal submission.errorMessage ++ ");")) ]

/-- The body of the submit handler. -/
def handler (submission : Submission) (names : Naming) : Code :=
  .seq
    [ .when submission.loadingState (.line "setIsSubmitting(true);"),
      .when submission.errorDisplay (.line "setError(\"\");"),
      .line "setSuccessMessage(\"\");",
      .block "try \x7b" (submission.attempt names) "\x7d catch (error) \x7b",
      .indent submission.onError,
      if submission.loadingState then
        .block "\x7d finally \x7b" (.line "setIsSubmitting(false);") "\x7d"
      else .line "\x7d" ]

end Submission

end FormScaffold
