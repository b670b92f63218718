import FormScaffold.Proofs.Script.Syntax
import FormScaffold.Submission

/-!
# The source of the submit handler

The lines of the submit handler, and of the state that it sets, are read as the statements that they
are meant to be, whatever the messages, the name of the form and the two flags are
(`Submission.read_handler`, `Submission.read_stateHooks`).
-/

namespace FormScaffold

open Script

namespace Naming

variable (names : Naming)

theorem getLast?_actionSymbol : names.actionSymbol.toList.getLast? = some 'n' := by
  simp [actionSymbol, List.getLast?_append]

/-- No reserved word ends as the symbol of a server action does. -/
theorem ofWord_actionSymbol :
    Token.ofWord names.actionSymbol.toList = .name names.actionSymbol := by
  apply Token.ofWord_eq_name
  rw [names.getLast?_actionSymbol]
  decide

end Naming

namespace Submission

variable (submission : Submission) (names : Naming)

/-! ## Tokens -/

/-- A line that declares a variable of the state. -/
def stateLine (x setter : String) (initial : Token) : List Token :=
  [.keyword .const, .mark '[', .name x, .mark ',', .name setter, .mark ']', .mark '=',
    .name "useState", .mark '(', initial, .mark ')', .mark ';']

/-- A line that sets a variable of the state. -/
def setLine (setter : String) (value : Token) : List Token :=
  [.name setter, .mark '(', value, .mark ')', .mark ';']

/-- The tokens of `stateHooks`, line by line. -/
def stateTokens : List (List Token) :=
  (if submission.loadingState then
    [stateLine "isSubmitting" "setIsSubmitting" (.keyword .false_)] else []) ++
  ((if submission.errorDisplay then [stateLine "error" "setError" (.text "")] else []) ++
  [stateLine "successMessage" "setSuccessMessage" (.text "")])

/-- The tokens of `onSuccess`. -/
def successTokens : List (List Token) :=
  [setLine "setSuccessMessage" (.text submission.successMessage),
    [.name "form", .mark '.', .name "reset", .mark '(', .mark ')', .mark ';']]

/-- The tokens of `checkResult`. -/
def checkTokens : List (List Token) :=
  [[.keyword .if_, .mark '(', .mark '!', .name "result", .mark '.', .name "success", .mark ')',
      .mark '\x7b'],
    [.keyword .throw_, .keyword .new, .name "Error", .mark '(', .name "result", .mark '.',
      .name "error", .mark '|', .text submission.errorMessage, .mark ')', .mark ';'],
    [.mark '\x7d']]

/-- The tokens of the call of the server action. -/
def actionTokens : List (List Token) :=
  [[.keyword .const, .name "result", .mark '=', .keyword .await, .name names.actionSymbol,
    .mark '(', .name "data", .mark ')', .mark ';']]

/-- The tokens of the request to the API route. -/
def requestTokens : List (List Token) :=
  [[.keyword .const, .name "response", .mark '=', .keyword .await, .name "fetch", .mark '(',
      .text names.routeUrl, .mark ',', .mark '\x7b'],
    [.name "method", .mark ':', .text "POST", .mark ','],
    [.name "headers", .mark ':', .mark '\x7b', .text "Content-Type", .mark ':',
      .text "application/json", .mark '\x7d', .mark ','],
    [.name "body", .mark ':', .name "JSON", .mark '.', .name "stringify", .mark '(', .name "data",
      .mark ')', .mark ','],
    [.mark '\x7d', .mark ')', .mark ';'],
    [.keyword .const, .name "result", .mark '=', .keyword .await, .name "response", .mark '.',
      .name "json", .mark '(', .mark ')', .mark ';']]

/-- The tokens of the line that logs the data. -/
def logTokens : List (List Token) :=
  [[.name "console", .mark '.', .name "log", .mark '(', .text (names.form ++ " submission:"),
    .mark ',', .name "data", .mark ')', .mark ';']]

/-- The tokens of `attempt`. -/
def attemptTokens : List (List Token) :=
  match submission.strategy with
  | .serverAction => actionTokens names ++ (submission.checkTokens ++ submission.successTokens)
  | .apiRoute => requestTokens names ++ (submission.checkTokens ++ submission.successTokens)
  | .console => logTokens names ++ submission.successTokens

/-- The tokens of the line that shows an error. -/
def showTokens : List (List Token) :=
  [[.name "setError", .mark '(', .name "error", .keyword .instanceof, .name "Error", .mark '&',
    .name "error", .mark '.', .name "message", .mark '?', .name "error", .mark '.',
    .name "message", .mark ':', .text submission.errorMessage, .mark ')', .mark ';']]

/-- The tokens of `onError`. -/
def errorTokens : List (List Token) :=
  [.name "console", .mark '.', .name "error", .mark '(', .text "Form submission error:", .mark ',',
    .name "error", .mark ')', .mark ';'] ::
    if submission.errorDisplay then submission.showTokens else []

/-- The tokens of the lines before the attempt. -/
def startTokens : List (List Token) :=
  (if submission.loadingState then [setLine "setIsSubmitting" (.keyword .true_)] else []) ++
  ((if submission.errorDisplay then [setLine "setError" (.text "")] else []) ++
  [setLine "setSuccessMessage" (.text "")])

/-- The tokens of the lines behind what happens after an error. -/
def endTokens : List (List Token) :=
  if submission.loadingState then
    [[.mark '\x7d', .keyword .finally_, .mark '\x7b'],
      setLine "setIsSubmitting" (.keyword .false_), [.mark '\x7d']]
  else [[.mark '\x7d']]

/-- The tokens of `handler`. -/
def handlerTokens : List (List Token) :=
  submission.startTokens ++
    ([.keyword .try_, .mark '\x7b'] :: (submission.attemptTokens names ++
      ([.mark '\x7d', .keyword .catch_, .mark '(', .name "error", .mark ')', .mark '\x7b'] ::
        (submission.errorTokens ++ submission.endTokens))))

/-! ## Statements -/

/-- The statement that declares a variable of the state. -/
def stateStmt (x setter : String) (initial : Expr) : Stmt :=
  .constPair x setter (.call (.name "useState") [initial])

/-- The statement that sets a variable of the state. -/
def setStmt (setter : String) (value : Expr) : Stmt := .run (.call (.name setter) [value])

/-- The statements of `stateHooks`. -/
def stateStmts : List Stmt :=
  (if submission.loadingState then [stateStmt "isSubmitting" "setIsSubmitting" (.flag false)]
    else []) ++
  ((if submission.errorDisplay then [stateStmt "error" "setError" (.text "")] else []) ++
  [stateStmt "successMessage" "setSuccessMessage" (.text "")])

/-- The statements of `onSuccess`. -/
def successStmts : List Stmt :=
  [setStmt "setSuccessMessage" (.text submission.successMessage),
    .run (.call (.member (.name "form") "reset") [])]

/-- The statement of `checkResult`. -/
def checkStmt : Stmt :=
  .ifThen (.not (.member (.name "result") "success"))
    [.throw (.construct "Error"
      [.or (.member (.name "result") "error") (.text submission.errorMessage)])]

/-- What is sent to the API route. -/
def requestExpr : Expr :=
  .record ["method", "headers", "body"]
    [.text "POST", .record ["Content-Type"] [.text "application/json"],
      .call (.member (.name "JSON") "stringify") [.name "data"]]

/-- The statements of `attempt`. -/
def attemptStmts : List Stmt :=
  match submission.strategy with
  | .serverAction =>
    .const "result" (.await (.call (.name names.actionSymbol) [.name "data"])) ::
      submission.checkStmt :: submission.successStmts
  | .apiRoute =>
    .const "response" (.await (.call (.name "fetch") [.text names.routeUrl, requestExpr])) ::
      .const "result" (.await (.call (.member (.name "response") "json") [])) ::
        submission.checkStmt :: submission.successStmts
  | .console =>
    .run (.call (.member (.name "console") "log")
      [.text (names.form ++ " submission:"), .name "data"]) :: submission.successStmts

/-- The error to show: the message of what was caught, else the configured one. -/
def shownExpr : Expr :=
  .choose (.and (.instanceof (.name "error") (.name "Error")) (.member (.name "error") "message"))
    (.member (.name "error") "message") (.text submission.errorMessage)

/-- The statements of `onError`. -/
def errorStmts : List Stmt :=
  .run (.call (.member (.name "console") "error")
      [.text "Form submission error:", .name "error"]) ::
    if submission.errorDisplay then [setStmt "setError" submission.shownExpr] else []

/-- The statements before the attempt. -/
def startStmts : List Stmt :=
  (if submission.loadingState then [setStmt "setIsSubmitting" (.flag true)] else []) ++
  ((if submission.errorDisplay then [setStmt "setError" (.text "")] else []) ++
  [setStmt "setSuccessMessage" (.text "")])

/-- The statements that end every run. -/
def endStmts : List Stmt :=
  if submission.loadingState then [setStmt "setIsSubmitting" (.flag false)] else []

/-- The statements of `handler`. -/
def handlerStmts : List Stmt :=
  submission.startStmts ++
    [Stmt.tryCatch (submission.attemptStmts names) "error" submission.errorStmts
      submission.endStmts]

/-! ## The lines are read -/

open List (Forall₂)

variable {submission names}

theorem lexes_stateHooks : Forall₂ Lexes submission.stateHooks.texts submission.stateTokens := by
  have hloading : Lexes "const [isSubmitting, setIsSubmitting] = useState(false);"
      (stateLine "isSubmitting" "setIsSubmitting" (.keyword .false_)) := fun _ => rfl
  have herror : Lexes "const [error, setError] = useState(\"\");"
      (stateLine "error" "setError" (.text "")) := fun _ => rfl
  have hsuccess : Lexes "const [successMessage, setSuccessMessage] = useState(\"\");"
      (stateLine "successMessage" "setSuccessMessage" (.text "")) := fun _ => rfl
  obtain ⟨strategy, loading, display, success, error⟩ := submission
  cases loading <;> cases display <;>
    simp [stateHooks, stateTokens, hloading, herror, hsuccess]

/-- What ends a call that is a statement. -/
theorem lexes_callEnd : Lexes ");" [.mark ')', .mark ';'] := fun _ => rfl

theorem lexes_onSuccess : Forall₂ Lexes submission.onSuccess.texts submission.successTokens := by
  have hset : Lexes ("setSuccessMessage(" ++ Quoted.literal submission.successMessage ++ ");")
      (setLine "setSuccessMessage" (.text submission.successMessage)) := by
    have hopening : Lexes "setSuccessMessage(" [.name "setSuccessMessage", .mark '('] :=
      fun _ => rfl
    exact hopening.around_literal lexes_callEnd _
  have hreset : Lexes "form.reset();"
      [.name "form", .mark '.', .name "reset", .mark '(', .mark ')', .mark ';'] := fun _ => rfl
  simp [onSuccess, successTokens, hset, hreset]

theorem lexes_checkResult : Forall₂ Lexes submission.checkResult.texts submission.checkTokens := by
  have hcondition : Lexes "if (!result.success) \x7b"
      [.keyword .if_, .mark '(', .mark '!', .name "result", .mark '.', .name "success", .mark ')',
        .mark '\x7b'] := fun _ => rfl
  have hthrow : Lexes "throw new Error(result.error || "
      [.keyword .throw_, .keyword .new, .name "Error", .mark '(', .name "result", .mark '.',
        .name "error", .mark '|'] := fun _ => rfl
  have hclose : Lexes "\x7d" [.mark '\x7d'] := fun _ => rfl
  have hline := hthrow.around_literal lexes_callEnd submission.errorMessage
  simpa [checkResult, checkTokens, hcondition, hclose] using hline

theorem lexes_attempt (h : isIdentifier names.form = true) :
    Forall₂ Lexes (submission.attempt names).texts (submission.attemptTokens names) := by
  have hrest : Forall₂ Lexes (submission.checkResult.texts ++ submission.onSuccess.texts)
      (submission.checkTokens ++ submission.successTokens) :=
    List.rel_append lexes_checkResult lexes_onSuccess
  rw [attempt, attemptTokens]
  cases submission.strategy with
  | serverAction =>
    have hopening : Lexes "const result = await "
        [.keyword .const, .name "result", .mark '=', .keyword .await] := fun _ => rfl
    have hcall : Lexes "(data);" [.mark '(', .name "data", .mark ')', .mark ';'] := fun _ => rfl
    have haction : isIdentifier names.actionSymbol = true := isIdentifier_append h (by decide)
    have hline := hopening.append
      (hcall.name_append haction names.ofWord_actionSymbol rfl (by decide))
    rw [← String.append_assoc] at hline
    simpa [actionTokens] using ⟨hline, hrest⟩
  | apiRoute =>
    have hopening : Lexes "const response = await fetch("
        [.keyword .const, .name "response", .mark '=', .keyword .await, .name "fetch",
          .mark '('] := fun _ => rfl
    have hcomma : Lexes ", \x7b" [.mark ',', .mark '\x7b'] := fun _ => rfl
    have hline := hopening.around_literal hcomma names.routeUrl
    have hmethod : Lexes "method: \"POST\","
        [.name "method", .mark ':', .text "POST", .mark ','] := fun _ => rfl
    have hheaders : Lexes "headers: \x7b \"Content-Type\": \"application/json\" \x7d,"
        [.name "headers", .mark ':', .mark '\x7b', .text "Content-Type", .mark ':',
          .text "application/json", .mark '\x7d', .mark ','] := fun _ => rfl
    have hbody : Lexes "body: JSON.stringify(data),"
        [.name "body", .mark ':', .name "JSON", .mark '.', .name "stringify", .mark '(',
          .name "data", .mark ')', .mark ','] := fun _ => rfl
    have hclose : Lexes "\x7d);" [.mark '\x7d', .mark ')', .mark ';'] := fun _ => rfl
    have hread : Lexes "const result = await response.json();"
        [.keyword .const, .name "result", .mark '=', .keyword .await, .name "response", .mark '.',
          .name "json", .mark '(', .mark ')', .mark ';'] := fun _ => rfl
    simpa [requestTokens, hmethod, hheaders, hbody, hclose, hread] using ⟨hline, hrest⟩
  | console =>
    have hopening : Lexes "console.log(" [.name "console", .mark '.', .name "log", .mark '('] :=
      fun _ => rfl
    have hdata : Lexes ", data);" [.mark ',', .name "data", .mark ')', .mark ';'] := fun _ => rfl
    have hline := hopening.around_literal hdata (names.form ++ " submission:")
    simpa [logTokens] using ⟨hline, lexes_onSuccess⟩

theorem lexes_onError : Forall₂ Lexes submission.onError.texts submission.errorTokens := by
  have hlog : Lexes "console.error(\"Form submission error:\", error);"
      [.name "console", .mark '.', .name "error", .mark '(', .text "Form submission error:",
        .mark ',', .name "error", .mark ')', .mark ';'] := fun _ => rfl
  have hshow : Lexes "setError(error instanceof Error && error.message ? error.message : "
      [.name "setError", .mark '(', .name "error", .keyword .instanceof, .name "Error", .mark '&',
        .name "error", .mark '.', .name "message", .mark '?', .name "error", .mark '.',
        .name "message", .mark ':'] := fun _ => rfl
  have hline := hshow.around_literal lexes_callEnd submission.errorMessage
  rw [onError, errorTokens]
  cases submission.errorDisplay with
  | false => simp [hlog]
  | true => simpa [showTokens, hlog] using hline

/-- The lines of the handler have the tokens that they are meant to have. -/
theorem lexes_handler (h : isIdentifier names.form = true) :
    Forall₂ Lexes (submission.handler names).texts (submission.handlerTokens names) := by
  have hset : Lexes "setIsSubmitting(true);" (setLine "setIsSubmitting" (.keyword .true_)) :=
    fun _ => rfl
  have hunset : Lexes "setIsSubmitting(false);" (setLine "setIsSubmitting" (.keyword .false_)) :=
    fun _ => rfl
  have herror : Lexes "setError(\"\");" (setLine "setError" (.text "")) := fun _ => rfl
  have hsuccess : Lexes "setSuccessMessage(\"\");" (setLine "setSuccessMessage" (.text "")) :=
    fun _ => rfl
  have htry : Lexes "try \x7b" [.keyword .try_, .mark '\x7b'] := fun _ => rfl
  have hcatch : Lexes "\x7d catch (error) \x7b"
      [.mark '\x7d', .keyword .catch_, .mark '(', .name "error", .mark ')', .mark '\x7b'] :=
    fun _ => rfl
  have hfinally : Lexes "\x7d finally \x7b" [.mark '\x7d', .keyword .finally_, .mark '\x7b'] :=
    fun _ => rfl
  have hclose : Lexes "\x7d" [.mark '\x7d'] := fun _ => rfl
  have hstart : Forall₂ Lexes
      ((Code.when submission.loadingState (.line "setIsSubmitting(true);")).texts ++
        ((Code.when submission.errorDisplay (.line "setError(\"\");")).texts ++
          ["setSuccessMessage(\"\");"])) submission.startTokens := by
    rw [startTokens]
    cases submission.loadingState <;> cases submission.errorDisplay <;>
      simp [hset, herror, hsuccess]
  have hend : Forall₂ Lexes
      (if submission.loadingState then
        .block "\x7d finally \x7b" (.line "setIsSubmitting(false);") "\x7d"
      else Code.line "\x7d").texts submission.endTokens := by
    rw [endTokens]
    cases submission.loadingState <;> simp [hfinally, hunset, hclose]
  have hattempt : Forall₂ Lexes (submission.attempt names).texts _ := lexes_attempt h
  have herrors : Forall₂ Lexes submission.onError.texts _ := lexes_onError
  have hall := List.rel_append hstart (.cons htry (List.rel_append hattempt
    (.cons hcatch (List.rel_append herrors hend))))
  simpa [handler, handlerTokens] using hall

/-! ## What is read -/

/-- The state that the handler sets is declared as it should be. -/
theorem read_stateHooks : read? submission.stateHooks.render = some submission.stateStmts := by
  rw [(lexes_render lexes_stateHooks).read?]
  obtain ⟨strategy, loading, display, success, error⟩ := submission
  cases loading <;> cases display <;> rfl

/-- The source of the handler is that of its statements, whatever the messages are. -/
theorem read_handler (h : isIdentifier names.form = true) :
    read? (submission.handler names).render = some (submission.handlerStmts names) := by
  rw [(lexes_render (lexes_handler h)).read?]
  obtain ⟨strategy, loading, display, success, error⟩ := submission
  cases strategy <;> cases loading <;> cases display <;> rfl

end Submission

end FormScaffold
