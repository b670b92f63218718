import FormScaffold.Proofs.Script.Run
import FormScaffold.Proofs.Submission.Source

/-!
# Runs of the submit handler

Whatever the awaited calls answer, a run of the submit handler ends: the loading flag was up during
every call and is down at the end, and either the success is reported and the form is reset, or the
failure is shown with its own message, if it has one, and else with the configured one
(`Submission.handler_informs`).
-/

namespace FormScaffold

open Script

/-! ## Failures -/

/-- The message that a reason brings: only an error has one. -/
def Script.Value.message : Value → String
  | error message => message
  | _ => ""

/-- The message of a failure, empty if it has none; nothing after a success. -/
def Script.Reply.failure? : Reply → Option String
  | rejects reason => some reason.message
  | reports report => if report.success then none else some (report.error.getD "")

namespace Strategy

/-- How many calls are awaited. -/
def waits (host : Host) : Strategy → Nat
  | serverAction => 1
  | apiRoute => if host.unreachable.isSome then 1 else 2
  | console => 0

/-- The message with which the calls fail. -/
def failure? (host : Host) : Strategy → Option String
  | serverAction => host.reply.failure?
  | apiRoute => (host.unreachable.map Value.message).or host.reply.failure?
  | console => none

end Strategy

namespace Submission

variable (submission : Submission) {names : Naming} {host : Host} {scope : Scope} {page : Page}

/-- A message, or the configured one if it is empty. -/
def orConfigured (message : String) : String :=
  if message = "" then submission.errorMessage else message

theorem orConfigured_orConfigured (message : String) :
    submission.orConfigured (submission.orConfigured message) =
      submission.orConfigured message := by
  by_cases hempty : message = ""
  · simp [orConfigured, hempty]
  · simp [orConfigured, hempty]

/-- How a run leads to a page by itself: after a success the message is set and the form is reset,
after a failure a reason is thrown that brings its message. -/
def Settles (run : Run Unit) (page next : Page) : Option String → Prop
  | none =>
    run page = some (.ok (), (next.set "successMessage" (.text submission.successMessage)).reset)
  | some own => ∃ reason, run page = some (.error reason, next) ∧
    submission.orConfigured reason.message = submission.orConfigured own

variable {submission} in
theorem Settles.of_eq {run run' : Run Unit} {page' next : Page} {failure : Option String}
    (h : submission.Settles run' page' next failure) (heq : run page = run' page') :
    submission.Settles run page next failure := by
  cases failure with
  | none => exact heq.trans h
  | some own =>
    obtain ⟨reason, hrun, hmessage⟩ := h
    exact ⟨reason, heq.trans hrun, hmessage⟩

/-! ## Single statements -/

theorem exec_setStmt {setter x : String} {e : Expr} {value : Value}
    (hsetter : scope setter = some (.function (.setter x)))
    (he : e.eval host scope page = some (.ok value, page)) :
    (setStmt setter e).exec host scope page = some (.ok scope, page.set x value) := by
  simp [setStmt, Stmt.exec, Expr.eval, Expr.evalAll, hsetter, he, Host.call]

/-- A statement that is there on a condition sets its variable on this condition. -/
theorem execAll_setStmt_when {condition : Bool} {setter x : String} {e : Expr} {value : Value}
    (hsetter : condition = true → scope setter = some (.function (.setter x)))
    (he : e.eval host scope page = some (.ok value, page)) (ss : List Stmt) :
    Stmt.execAll host scope ((if condition then [setStmt setter e] else []) ++ ss) page =
      Stmt.execAll host scope ss (page.setWhen condition x value) := by
  cases condition with
  | false => rfl
  | true => exact Stmt.execAll_cons_of_ok (exec_setStmt (hsetter rfl) he)

theorem member_success (report : Report) :
    report.value.member? "success" = some (.flag report.success) := rfl

theorem member_error (report : Report) :
    report.value.member? "error" = some (report.error.elim .undefined .text) := by
  obtain ⟨success, error, others⟩ := report
  cases error with
  | some message => rfl
  | none =>
    have hnone : (others.filter (·.1 ≠ "error")).lookup "error" = none := by
      rw [List.lookup_eq_none_iff]
      intro field hfield
      have hne : field.1 ≠ "error" := of_decide_eq_true (List.mem_filter.mp hfield).2
      exact bne_iff_ne.mpr hne.symm
    change some (((others.filter (·.1 ≠ "error")).lookup "error").getD .undefined) = _
    rw [hnone]
    rfl

/-- A reported failure is thrown as an error with its own message or the configured one. -/
theorem exec_checkStmt (hclass : scope "Error" = some (.function .error)) {report : Report}
    (hresult : scope "result" = some report.value) :
    submission.checkStmt.exec host scope page =
      some (if report.success then .ok scope
        else .error (.error (submission.orConfigured (report.error.getD ""))), page) := by
  have hcondition : (Expr.not (.member (.name "result") "success")).eval host scope page =
      some (.ok (.flag (!report.success)), page) := by
    simp [Expr.eval, hresult, member_success, Value.truthy]
  have hmessage : (Expr.or (.member (.name "result") "error") (.text submission.errorMessage)).eval
      host scope page =
        some (.ok (.text (submission.orConfigured (report.error.getD ""))), page) := by
    cases herror : report.error with
    | none => simp [Expr.eval, hresult, member_error, herror, Value.truthy, orConfigured]
    | some message =>
      by_cases hempty : message = "" <;>
        simp [Expr.eval, hresult, member_error, herror, Value.truthy, orConfigured, hempty]
  have hthrow := Stmt.exec_throw (Expr.eval_construct_error hclass hmessage)
  rw [checkStmt, Stmt.exec, Run.bind_apply, hcondition]
  cases report.success with
  | true => rfl
  | false => simp [Value.truthy, Stmt.execAll_cons_of_error hthrow]

theorem execAll_successStmts
    (hset : scope "setSuccessMessage" = some (.function (.setter "successMessage")))
    (hform : scope "form" = some (.record [("reset", .function .reset)])) :
    Stmt.execAll host scope submission.successStmts page =
      some (.ok (), (page.set "successMessage" (.text submission.successMessage)).reset) := by
  rw [successStmts, Stmt.execAll_cons_of_ok (exec_setStmt hset rfl)]
  simp [Stmt.execAll, Stmt.exec, Expr.eval, Expr.evalAll, hform, Host.call, Value.member?]

/-- The error that is shown is the message of what was caught, or else the configured one. -/
theorem eval_shownExpr (hclass : scope "Error" = some (.function .error)) {reason : Value}
    (hreason : scope "error" = some reason) :
    submission.shownExpr.eval host scope page =
      some (.ok (.text (submission.orConfigured reason.message)), page) := by
  cases reason with
  | error message =>
    by_cases hempty : message = "" <;>
      simp [shownExpr, Expr.eval, hclass, hreason, Value.isError, Value.truthy, Value.member?,
        Value.message, orConfigured, hempty]
  | _ =>
    simp [shownExpr, Expr.eval, hclass, hreason, Value.isError, Value.truthy, Value.message,
      orConfigured]

theorem execAll_errorStmts
    (hconsole : scope "console" =
      some (.record [("log", .function .log), ("error", .function .log)]))
    (hclass : scope "Error" = some (.function .error))
    (hset : submission.errorDisplay = true → scope "setError" = some (.function (.setter "error")))
    {reason : Value} (hreason : scope "error" = some reason) :
    Stmt.execAll host scope submission.errorStmts page =
      some (.ok (), page.setWhen submission.errorDisplay "error"
        (.text (submission.orConfigured reason.message))) := by
  have hlog : (Stmt.run (.call (.member (.name "console") "error")
      [.text "Form submission error:", .name "error"])).exec host scope page =
        some (.ok scope, page) := by
    simp [Stmt.exec, Expr.eval, Expr.evalAll, hconsole, hreason, Host.call, Value.member?,
      List.lookup_cons]
  have hshown : submission.shownExpr.eval host scope page = _ :=
    submission.eval_shownExpr hclass hreason
  rw [errorStmts, Stmt.execAll_cons_of_ok hlog]
  simpa [Stmt.execAll] using execAll_setStmt_when hset hshown []

/-! ## The attempt -/

/-- Once the reply is awaited, the attempt ends as the reply says. -/
theorem settles_reply
    (hset : scope "setSuccessMessage" = some (.function (.setter "successMessage")))
    (hform : scope "form" = some (.record [("reset", .function .reset)]))
    (hclass : scope "Error" = some (.function .error)) {e : Expr}
    (he : e.eval host scope page = Run.await host.reply.promise page) :
    submission.Settles (Stmt.execAll host scope
      (.const "result" e :: submission.checkStmt :: submission.successStmts))
      page (page.waited 1) host.reply.failure? := by
  cases hreply : host.reply with
  | rejects reason =>
    rw [hreply, Reply.promise, Run.await_rejected] at he
    exact ⟨reason, Stmt.execAll_cons_of_error (Stmt.exec_const_of_error he), rfl⟩
  | reports report =>
    rw [hreply, Reply.promise, Run.await_resolved] at he
    -- the check and what follows it run where the result is known
    have hcheck : submission.checkStmt.exec host (scope.bind "result" report.value)
        (page.waited 1) = _ := submission.exec_checkStmt (by simpa [Scope.bind] using hclass) rfl
    rw [Reply.failure?]
    cases hsuccess : report.success with
    | true =>
      rw [hsuccess] at hcheck
      rw [if_pos rfl, Settles, Stmt.execAll_cons_of_ok (Stmt.exec_const he),
        Stmt.execAll_cons_of_ok hcheck]
      apply execAll_successStmts
      · simpa [Scope.bind] using hset
      · simpa [Scope.bind] using hform
    | false =>
      rw [hsuccess] at hcheck
      rw [if_neg Bool.false_ne_true, Settles, Stmt.execAll_cons_of_ok (Stmt.exec_const he)]
      exact ⟨_, Stmt.execAll_cons_of_error hcheck, submission.orConfigured_orConfigured _⟩

/-- What the handler finds around it. -/
structure Surroundings (names : Naming) (scope : Scope) : Prop where
  data : ∃ value, scope "data" = some value
  form : scope "form" = some (.record [("reset", .function .reset)])
  setSuccess : scope "setSuccessMessage" = some (.function (.setter "successMessage"))
  setSubmitting : submission.loadingState = true →
    scope "setIsSubmitting" = some (.function (.setter "isSubmitting"))
  setError : submission.errorDisplay = true → scope "setError" = some (.function (.setter "error"))
  action : submission.strategy = .serverAction →
    scope names.actionSymbol = some (.function .action)
  console : scope "console" = some (.record [("log", .function .log), ("error", .function .log)])
  errorClass : scope "Error" = some (.function .error)
  fetch : scope "fetch" = some (.function .fetch)
  json : scope "JSON" = some (.record [("stringify", .function .stringify)])

variable {submission}

/-- The attempt ends as the calls of the strategy say, and waits for each of them. -/
theorem Surroundings.settles_attempt (h : submission.Surroundings names scope) :
    submission.Settles (Stmt.execAll host scope (submission.attemptStmts names)) page
      (page.waited (submission.strategy.waits host)) (submission.strategy.failure? host) := by
  obtain ⟨data, hdata⟩ := h.data
  rw [attemptStmts]
  cases hstrategy : submission.strategy with
  | serverAction =>
    apply submission.settles_reply h.setSuccess h.form h.errorClass
    simp [Expr.eval, Expr.evalAll, h.action hstrategy, hdata, Host.call]
  | console =>
    have hlog : (Stmt.run (.call (.member (.name "console") "log")
        [.text (names.form ++ " submission:"), .name "data"])).exec host scope page =
          some (.ok scope, page) := by
      simp [Stmt.exec, Expr.eval, Expr.evalAll, h.console, hdata, Host.call, Value.member?]
    rw [Strategy.failure?, Settles, Stmt.execAll_cons_of_ok hlog]
    simp [Strategy.waits, submission.execAll_successStmts h.setSuccess h.form]
  | apiRoute =>
    have hrequest : (Expr.await (.call (.name "fetch") [.text names.routeUrl, requestExpr])).eval
        host scope page = Run.await host.response page := by
      simp [requestExpr, Expr.eval, Expr.evalAll, h.fetch, h.json, hdata, Host.call,
        Value.member?]
    rw [Strategy.failure?, Strategy.waits]
    cases hunreachable : host.unreachable with
    | some reason =>
      rw [Host.response, hunreachable, Run.await_rejected] at hrequest
      exact ⟨reason, Stmt.execAll_cons_of_error (Stmt.exec_const_of_error hrequest), rfl⟩
    | none =>
      rw [Host.response, hunreachable, Run.await_resolved] at hrequest
      have hreply : submission.Settles (Stmt.execAll host
          (scope.bind "response" (.record [("json", .function .readBody)]))
          (.const "result" (.await (.call (.member (.name "response") "json") [])) ::
            submission.checkStmt :: submission.successStmts))
          (page.waited 1) ((page.waited 1).waited 1) host.reply.failure? := by
        apply submission.settles_reply
        · simpa [Scope.bind] using h.setSuccess
        · simpa [Scope.bind] using h.form
        · simpa [Scope.bind] using h.errorClass
        · simp [Expr.eval, Expr.evalAll, Scope.bind, Value.member?, Host.call]
      rw [Page.waited_waited] at hreply
      exact hreply.of_eq (Stmt.execAll_cons_of_ok (Stmt.exec_const hrequest))

/-! ## The whole handler -/

/-- The page when the attempt begins. -/
def started (submission : Submission) (page : Page) : Page :=
  ((page.setWhen submission.loadingState "isSubmitting" (.flag true)).setWhen
    submission.errorDisplay "error" (.text "")).set "successMessage" (.text "")

/-- The page at the end, given the page to which the attempt leads by itself. -/
def finished (submission : Submission) (next : Page) (failure : Option String) : Page :=
  let settled := match failure with
    | none => (next.set "successMessage" (.text submission.successMessage)).reset
    | some own =>
      next.setWhen submission.errorDisplay "error" (.text (submission.orConfigured own))
  settled.setWhen submission.loadingState "isSubmitting" (.flag false)

namespace Surroundings

theorem execAll_startStmts (h : submission.Surroundings names scope) (ss : List Stmt) :
    Stmt.execAll host scope (submission.startStmts ++ ss) page =
      Stmt.execAll host scope ss (submission.started page) := by
  rw [startStmts, List.append_assoc, execAll_setStmt_when h.setSubmitting rfl, List.append_assoc,
    execAll_setStmt_when h.setError rfl]
  exact Stmt.execAll_cons_of_ok (exec_setStmt h.setSuccess rfl)

theorem execAll_endStmts (h : submission.Surroundings names scope) :
    Stmt.execAll host scope submission.endStmts page =
      some (.ok (), page.setWhen submission.loadingState "isSubmitting" (.flag false)) := by
  have hend : Stmt.execAll host scope (submission.endStmts ++ []) page = _ :=
    execAll_setStmt_when h.setSubmitting rfl []
  rw [List.append_nil] at hend
  exact hend

/-- Whatever the calls answer, the handler ends. -/
theorem execAll_handlerStmts (h : submission.Surroundings names scope) :
    Stmt.execAll host scope (submission.handlerStmts names) page =
      some (.ok (), submission.finished
        ((submission.started page).waited (submission.strategy.waits host))
        (submission.strategy.failure? host)) := by
  have hattempt : submission.Settles (Stmt.execAll host scope (submission.attemptStmts names))
    (submission.started page) _ _ := h.settles_attempt
  have htry : (Stmt.tryCatch (submission.attemptStmts names) "error" submission.errorStmts
      submission.endStmts).exec host scope (submission.started page) =
        some (.ok scope, submission.finished
          ((submission.started page).waited (submission.strategy.waits host))
          (submission.strategy.failure? host)) := by
    rw [Stmt.exec, Run.bind_apply]
    cases hfailure : submission.strategy.failure? host with
    | none =>
      rw [hfailure] at hattempt
      rw [Run.ending_ok (Run.catching_ok hattempt _) h.execAll_endStmts]
      rfl
    | some own =>
      rw [hfailure] at hattempt
      obtain ⟨reason, hthrown, hmessage⟩ := hattempt
      have hcaught : Stmt.execAll host (scope.bind "error" reason) submission.errorStmts
          ((submission.started page).waited (submission.strategy.waits host)) = _ :=
        submission.execAll_errorStmts (by simpa [Scope.bind] using h.console)
          (by simpa [Scope.bind] using h.errorClass) (by simpa [Scope.bind] using h.setError) rfl
      rw [hmessage] at hcaught
      rw [Run.ending_ok ((Run.catching_error hthrown _).trans hcaught) h.execAll_endStmts]
      rfl
  rw [handlerStmts, h.execAll_startStmts, Stmt.execAll_cons_of_ok htry]
  rfl

end Surroundings

/-! ## The handler in its component -/

/-- The variable and the setter of a state hook. -/
def hook? : Stmt → Option (String × String)
  | .constPair x setter (.call (.name "useState") [_]) => some (x, setter)
  | _ => none

/-- What is there in every script. -/
def globals : Scope := fun x =>
  [("fetch", .function .fetch), ("JSON", .record [("stringify", .function .stringify)]),
    ("console", .record [("log", .function .log), ("error", .function .log)]),
    ("Error", .function .error)].lookup x

/-- What is imported: the server action, if the data goes to one. -/
def imported (submission : Submission) (names : Naming) : Scope :=
  if submission.strategy = .serverAction
  then globals.bind names.actionSymbol (.function .action) else globals

/-- What the names in the handler stand for: the submitted data, the variables of the state as they
were when the component was rendered and their setters, the form, and what is imported. -/
def handlerScope (submission : Submission) (names : Naming) (hooks : List (String × String))
    (state : String → Value) (data : Value) : Scope :=
  let component := (submission.imported names).bind "form" (.record [("reset", .function .reset)])
  let stateful := hooks.foldr (fun hook scope =>
    (scope.bind hook.1 (state hook.1)).bind hook.2 (.function (.setter hook.1))) component
  stateful.bind "data" data

/-- The hooks of the state, each by its variable and its setter. -/
def hooks (submission : Submission) : List (String × String) :=
  (if submission.loadingState then [("isSubmitting", "setIsSubmitting")] else []) ++
    ((if submission.errorDisplay then [("error", "setError")] else []) ++
      [("successMessage", "setSuccessMessage")])

theorem mapM_hook?_stateStmts : submission.stateStmts.mapM hook? = some submission.hooks := by
  rw [stateStmts, hooks]
  cases submission.loadingState <;> cases submission.errorDisplay <;> rfl

/-- The names that a component can give to its data, its form and its state. -/
def componentNames : List String :=
  ["data", "form", "isSubmitting", "setIsSubmitting", "error", "setError", "successMessage",
    "setSuccessMessage"]

/-- The handler finds behind the names of its component what is imported. -/
theorem handlerScope_eq_imported {x : String} (hx : x ∉ componentNames)
    (state : String → Value) (data : Value) :
    submission.handlerScope names submission.hooks state data x = submission.imported names x := by
  simp only [componentNames, List.mem_cons, List.not_mem_nil, or_false, not_or] at hx
  rw [hooks]
  cases submission.loadingState <;> cases submission.errorDisplay <;>
    simp [handlerScope, Scope.bind, hx]

theorem actionSymbol_notMem_componentNames : names.actionSymbol ∉ componentNames := by
  have hlast : ∀ x ∈ componentNames, x.toList.getLast? ≠ some 'n' := by decide
  intro hmem
  exact hlast _ hmem names.getLast?_actionSymbol

theorem imported_eq_globals {x : String} (h : x.toList.getLast? ≠ some 'n') :
    submission.imported names x = globals x := by
  rw [imported]
  split
  · refine if_neg ?_
    rintro rfl
    exact h names.getLast?_actionSymbol
  · rfl

theorem surroundings_handlerScope (state : String → Value) (data : Value) :
    submission.Surroundings names
      (submission.handlerScope names submission.hooks state data) := by
  have hglobal {x : String} (hx : x ∉ componentNames) (hlast : x.toList.getLast? ≠ some 'n') :
      submission.handlerScope names submission.hooks state data x = globals x :=
    (handlerScope_eq_imported hx state data).trans (imported_eq_globals hlast)
  constructor
  case data => exact ⟨data, rfl⟩
  case form | setSuccess =>
    rw [hooks]
    cases submission.loadingState <;> cases submission.errorDisplay <;> rfl
  case setSubmitting =>
    intro hloading
    rw [hooks, hloading]
    rfl
  case setError =>
    intro hdisplay
    rw [hooks, hdisplay]
    cases submission.loadingState <;> rfl
  case action =>
    intro hstrategy
    rw [handlerScope_eq_imported actionSymbol_notMem_componentNames, imported, if_pos hstrategy]
    exact if_pos rfl
  case console | errorClass | fetch | json => exact hglobal (by decide) (by decide)

/-- The handler calls by name only the setters of its state and what its strategy needs. -/
theorem mem_calleesAll_handlerStmts {f : String}
    (h : f ∈ Stmt.calleesAll (submission.handlerStmts names)) :
    f ∈ submission.hooks.map (·.2) ∨
      (submission.strategy = .serverAction ∧ f = names.actionSymbol) ∨
        (submission.strategy = .apiRoute ∧ f = "fetch") := by
  have hstart : Stmt.calleesAll submission.startStmts = submission.hooks.map (·.2) := by
    rw [startStmts, hooks]
    cases submission.loadingState <;> cases submission.errorDisplay <;> rfl
  have hattempt : f ∈ Stmt.calleesAll (submission.attemptStmts names) →
      f = "setSuccessMessage" ∨ (submission.strategy = .serverAction ∧ f = names.actionSymbol) ∨
        (submission.strategy = .apiRoute ∧ f = "fetch") := by
    rw [attemptStmts]
    cases submission.strategy <;>
      simp +contextual [Stmt.calleesAll, Stmt.callees, Expr.callees, Expr.calleesAll, checkStmt,
        successStmts, setStmt, requestExpr, or_comm]
  have herror : f ∈ Stmt.calleesAll submission.errorStmts →
      submission.errorDisplay = true ∧ f = "setError" := by
    rw [errorStmts]
    cases submission.errorDisplay <;>
      simp [Stmt.calleesAll, Stmt.callees, Expr.callees, Expr.calleesAll, setStmt, shownExpr]
  have hend : f ∈ Stmt.calleesAll submission.endStmts →
      submission.loadingState = true ∧ f = "setIsSubmitting" := by
    rw [endStmts]
    cases submission.loadingState <;>
      simp [Stmt.calleesAll, Stmt.callees, Expr.callees, Expr.calleesAll, setStmt]
  rw [handlerStmts, Stmt.calleesAll_append, hstart] at h
  simp only [Stmt.calleesAll, Stmt.callees, List.mem_append, List.append_nil] at h
  rcases h with h | (h | h) | h
  · exact .inl h
  · rcases hattempt h with rfl | h
    · exact .inl (by simp [hooks])
    · exact .inr h
  · obtain ⟨hdisplay, rfl⟩ := herror h
    exact .inl (by simp [hooks, hdisplay])
  · obtain ⟨hloading, rfl⟩ := hend h
    exact .inl (by simp [hooks, hloading])

/-- What a run that began with a state leaves behind, given how the host answers. -/
structure Informs (submission : Submission) (host : Host) (before : String → Value)
    (after : Page) : Prop where
  waits : after.waits.length = submission.strategy.waits host
  loading : submission.loadingState = true →
    after.state "isSubmitting" = .flag false ∧
      ∀ state ∈ after.waits, state "isSubmitting" = .flag true
  success : submission.strategy.failure? host = none →
    after.state "successMessage" = .text submission.successMessage ∧ after.resets = 1 ∧
      (submission.errorDisplay = true → after.state "error" = .text "")
  failure : ∀ own, submission.strategy.failure? host = some own →
    after.state "successMessage" = .text "" ∧ after.resets = 0 ∧
      (submission.errorDisplay = true → after.state "error" =
        .text (if own = "" then submission.errorMessage else own))
  frame : ∀ x ∉ submission.hooks.map (·.1), after.state x = before x

theorem informs_finished (host : Host) (before : String → Value) :
    submission.Informs host before (submission.finished
      ((submission.started ⟨before, 0, []⟩).waited (submission.strategy.waits host))
      (submission.strategy.failure? host)) := by
  constructor
  case waits => cases submission.strategy.failure? host <;> simp [finished, started]
  case loading =>
    intro hloading
    cases submission.strategy.failure? host <;> simp [finished, started, hloading]
  case success =>
    intro hfailure
    refine ⟨by simp [hfailure, finished], by simp [hfailure, finished, started], ?_⟩
    intro hdisplay
    simp [hfailure, finished, started, hdisplay]
  case failure =>
    intro own hfailure
    refine ⟨by simp [hfailure, finished, started], by simp [hfailure, finished, started], ?_⟩
    intro hdisplay
    simp [hfailure, finished, hdisplay, orConfigured]
  case frame =>
    intro x hx
    have hloading : ¬(submission.loadingState = true ∧ x = "isSubmitting") := by
      rintro ⟨hloading, rfl⟩
      exact hx (by simp [hooks, hloading])
    have hdisplay : ¬(submission.errorDisplay = true ∧ x = "error") := by
      rintro ⟨hdisplay, rfl⟩
      exact hx (by simp [hooks, hdisplay])
    have hsuccess : x ≠ "successMessage" := by
      rintro rfl
      exact hx (by simp [hooks])
    cases submission.strategy.failure? host <;>
      simp [finished, started, hloading, hdisplay, hsuccess]

/-- The lines of the handler are a script that calls only setters of the state that is declared for
it, besides what its strategy needs.  However the awaited calls are answered, its run ends and
informs the user as it should. -/
theorem handler_informs (submission : Submission) {names : Naming}
    (h : isIdentifier names.form = true) :
    (read? submission.stateHooks.render).bind (List.mapM hook?) = some submission.hooks ∧
    ∃ body, read? (submission.handler names).render = some body ∧
      (∀ f ∈ Stmt.calleesAll body, f ∈ submission.hooks.map (·.2) ∨
        (submission.strategy = .serverAction ∧ f = names.actionSymbol) ∨
          (submission.strategy = .apiRoute ∧ f = "fetch")) ∧
      ∀ host state data, ∃ after,
        Stmt.execAll host (submission.handlerScope names submission.hooks state data) body
          ⟨state, 0, []⟩ = some (.ok (), after) ∧ submission.Informs host state after := by
  constructor
  · rw [read_stateHooks, Option.bind_some, mapM_hook?_stateStmts]
  · refine ⟨submission.handlerStmts names, read_handler h, ?_, ?_⟩
    · intro f hf
      exact mem_calleesAll_handlerStmts hf
    · intro host state data
      exact ⟨_, (surroundings_handlerScope state data).execAll_handlerStmts,
        informs_finished host state⟩

/-- A failure without a message of its own is shown with the configured one, quotes and all. -/
theorem handler_informs_of_silent_failure :
    ∃ body after,
      read? (Submission.handler ⟨.serverAction, true, true, "Sent.", "Not \"sent\"."⟩
        ⟨"contact", .app⟩).render = some body ∧
      Stmt.execAll ⟨none, .reports ⟨false, none, []⟩, fun _ => ""⟩
        (Submission.handlerScope ⟨.serverAction, true, true, "Sent.", "Not \"sent\"."⟩
          ⟨"contact", .app⟩
          [("isSubmitting", "setIsSubmitting"), ("error", "setError"),
            ("successMessage", "setSuccessMessage")]
          (fun _ => .undefined) .undefined)
        body ⟨fun _ => .undefined, 0, []⟩ = some (.ok (), after) ∧
      after.waits.length = 1 ∧ after.state "isSubmitting" = .flag false ∧
      after.state "error" = .text "Not \"sent\"." := by
  have hname : isIdentifier (Naming.mk "contact" .app).form = true := by decide
  obtain ⟨-, body, hread, -, hrun⟩ := handler_informs
    ⟨.serverAction, true, true, "Sent.", "Not \"sent\"."⟩ hname
  obtain ⟨after, hafter, hinforms⟩ :=
    hrun ⟨none, .reports ⟨false, none, []⟩, fun _ => ""⟩ (fun _ => .undefined) .undefined
  exact ⟨body, after, hread, hafter, hinforms.waits, (hinforms.loading rfl).1,
    (hinforms.failure "" rfl).2.2 rfl⟩

end Submission

end FormScaffold
