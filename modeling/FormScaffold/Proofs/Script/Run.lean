import FormScaffold.Proofs.Script.Syntax

/-!
# Runs of a script

What the statements of a handler do when they run: a page holds the state of a component, counts
how often its form was reset and remembers the state at every wait.  The calls that are awaited
belong to a host, which may answer in any way.  A run ends, ends with a thrown value, or is stuck
where it leaves the statements and values that are modelled, so that a run that is shown to end has
called nothing unknown.
-/

namespace FormScaffold.Script

/-! ## Values and pages -/

/-- The functions that a handler may call. -/
inductive Builtin where
  | setter (x : String)
  | action | fetch | readBody | stringify | log | reset | error
deriving DecidableEq, Repr

/-- A value.  A promise is known by what it is settled with. -/
inductive Value where
  | undefined
  | flag (value : Bool)
  | text (value : String)
  | error (message : String)
  | record (fields : List (String × Value))
  | function (builtin : Builtin)
  | resolved (value : Value)
  | rejected (reason : Value)

namespace Value

/-- Whether a value counts as true in a condition. -/
def truthy : Value → Bool
  | undefined => false
  | flag value => value
  | text value => value != ""
  | _ => true

/-- A member of an object.  The members of other values are not modelled. -/
def member? : Value → String → Option Value
  | record fields, field => some ((fields.lookup field).getD undefined)
  | error message, field => if field = "message" then some (text message) else none
  | _, _ => none

def isError : Value → Bool
  | error _ => true
  | _ => false

end Value

/-- What a run can change: the state of the component by its variables, and how often the form was
reset; and the state as it was at each wait, the first one first. -/
structure Page where
  state : String → Value
  resets : Nat
  waits : List (String → Value)

namespace Page

def set (page : Page) (x : String) (value : Value) : Page :=
  { page with state := fun y => if y = x then value else page.state y }

def setWhen (page : Page) (condition : Bool) (x : String) (value : Value) : Page :=
  if condition then page.set x value else page

def reset (page : Page) : Page := { page with resets := page.resets + 1 }

def waited (page : Page) (n : Nat) : Page :=
  { page with waits := page.waits ++ List.replicate n page.state }

variable (page : Page) (x y : String) (value : Value)

@[simp] theorem state_set :
    (page.set x value).state y = if y = x then value else page.state y := rfl

@[simp] theorem resets_set : (page.set x value).resets = page.resets := rfl

@[simp] theorem waits_set : (page.set x value).waits = page.waits := rfl

@[simp] theorem state_setWhen (condition : Bool) :
    (page.setWhen condition x value).state y =
      if condition = true ∧ y = x then value else page.state y := by
  cases condition <;> simp [setWhen]

@[simp] theorem resets_setWhen (condition : Bool) :
    (page.setWhen condition x value).resets = page.resets := by
  cases condition <;> rfl

@[simp] theorem waits_setWhen (condition : Bool) :
    (page.setWhen condition x value).waits = page.waits := by
  cases condition <;> rfl

@[simp] theorem state_reset : page.reset.state = page.state := rfl

@[simp] theorem resets_reset : page.reset.resets = page.resets + 1 := rfl

@[simp] theorem waits_reset : page.reset.waits = page.waits := rfl

@[simp] theorem state_waited (n : Nat) : (page.waited n).state = page.state := rfl

@[simp] theorem resets_waited (n : Nat) : (page.waited n).resets = page.resets := rfl

@[simp] theorem waits_waited (n : Nat) :
    (page.waited n).waits = page.waits ++ List.replicate n page.state := rfl

@[simp] theorem waited_zero : page.waited 0 = page := by simp [waited]

@[simp] theorem waited_waited (m n : Nat) : (page.waited m).waited n = page.waited (m + n) := by
  rw [waited, waited, waited, List.append_assoc, List.replicate_append_replicate]

end Page

/-! ## Runs -/

/-- A run ends with a result or with a thrown value, or is stuck. -/
def Run (α : Type) := Page → Option (Except Value α × Page)

namespace Run

variable {α β : Type}

instance : Monad Run where
  pure a := fun page => some (.ok a, page)
  bind x f := fun page =>
    match x page with
    | some (.ok a, page) => f a page
    | some (.error reason, page) => some (.error reason, page)
    | none => none

def stuck : Run α := fun _ => none

def throw (reason : Value) : Run α := fun page => some (.error reason, page)

def change (f : Page → Page) : Run Value := fun page => some (.ok .undefined, f page)

def ofOption : Option α → Run α
  | some a => pure a
  | none => stuck

/-- Waits for a promise to be settled. -/
def await : Value → Run Value
  | .rejected reason => fun page => some (.error reason, page.waited 1)
  | .resolved value | value => fun page => some (.ok value, page.waited 1)

def catching (body : Run α) (handler : Value → Run α) : Run α := fun page =>
  match body page with
  | some (.error reason, page) => handler reason page
  | result => result

/-- What is done at the end however the body ends.  If it throws, what the body gave is lost. -/
def ending (body : Run α) (finalizer : Run Unit) : Run α := fun page =>
  match body page with
  | some (result, page) =>
    match finalizer page with
    | some (.ok _, page) => some (result, page)
    | some (.error reason, page) => some (.error reason, page)
    | none => none
  | none => none

variable (page : Page)

@[simp] theorem pure_apply (a : α) : (pure a : Run α) page = some (.ok a, page) := rfl

@[simp] theorem bind_apply (x : Run α) (f : α → Run β) :
    (x >>= f) page =
      match x page with
      | some (.ok a, page) => f a page
      | some (.error reason, page) => some (.error reason, page)
      | none => none := rfl

@[simp] theorem throw_apply (reason : Value) :
    (throw reason : Run α) page = some (.error reason, page) := rfl

@[simp] theorem change_apply (f : Page → Page) :
    change f page = some (.ok .undefined, f page) := rfl

@[simp] theorem ofOption_some (a : α) : ofOption (some a) = pure a := rfl

@[simp] theorem await_resolved (value : Value) :
    await (.resolved value) page = some (.ok value, page.waited 1) := rfl

@[simp] theorem await_rejected (reason : Value) :
    await (.rejected reason) page = some (.error reason, page.waited 1) := rfl

variable {page} {page' : Page} {body : Run α} {finalizer : Run Unit} {result : Except Value α}

theorem catching_ok {a : α} (h : body page = some (.ok a, page')) (handler : Value → Run α) :
    catching body handler page = some (.ok a, page') := by
  rw [catching, h]

theorem catching_error {reason : Value} (h : body page = some (.error reason, page'))
    (handler : Value → Run α) : catching body handler page = handler reason page' := by
  rw [catching, h]

theorem ending_ok {page'' : Page} (h : body page = some (result, page'))
    (hend : finalizer page' = some (.ok (), page'')) :
    ending body finalizer page = some (result, page'') := by
  simp only [ending, h, hend]

end Run

/-! ## The host -/

/-- What a call reports: whether it was a success, its error if it has one, and other fields. -/
structure Report where
  success : Bool
  error : Option String
  others : List (String × Value)

/-- The answer to a request: it fails with a reason, or it reports a result. -/
inductive Reply where
  | rejects (reason : Value)
  | reports (report : Report)

/-- The world around a handler: whether a request gets through, what is answered, and how values are
written as texts. -/
structure Host where
  unreachable : Option Value
  reply : Reply
  stringify : Value → String

def Report.value (report : Report) : Value :=
  .record (("success", .flag report.success) ::
    ((report.error.map fun message => ("error", Value.text message)).toList ++
      report.others.filter (·.1 ≠ "error")))

def Reply.promise : Reply → Value
  | rejects reason => .rejected reason
  | reports report => .resolved report.value

namespace Host

/-- The promise of a response, whose body can be read. -/
def response (host : Host) : Value :=
  match host.unreachable with
  | some reason => .rejected reason
  | none => .resolved (.record [("json", .function .readBody)])

def call (host : Host) : Builtin → List Value → Run Value
  | .setter x, [value] => .change fun page => page.set x value
  | .action, [_] | .readBody, [] => pure host.reply.promise
  | .fetch, [.text _, .record _] => pure host.response
  | .stringify, [value] => pure (.text (host.stringify value))
  | .log, _ => pure .undefined
  | .reset, [] => .change Page.reset
  | _, _ => .stuck

end Host

/-! ## Expressions and statements -/

/-- What the names stand for. -/
abbrev Scope := String → Option Value

def Scope.bind (scope : Scope) (x : String) (value : Value) : Scope :=
  fun y => if y = x then some value else scope y

section Meaning

variable (host : Host)

mutual

def Expr.eval (scope : Scope) : Expr → Run Value
  | name word => .ofOption (scope word)
  | text value => pure (.text value)
  | flag value => pure (.flag value)
  | record keys values => do
    let values ← evalAll scope values
    return .record (keys.zip values)
  | member object field => do
    let object ← object.eval scope
    .ofOption (object.member? field)
  | call function arguments => do
    let function ← function.eval scope
    let arguments ← evalAll scope arguments
    match function with
    | .function builtin => host.call builtin arguments
    | _ => .stuck
  | construct function arguments => do
    let arguments ← evalAll scope arguments
    match scope function, arguments with
    | some (.function .error), [.text message] => return .error message
    | _, _ => .stuck
  | await value => do
    let value ← value.eval scope
    .await value
  | not value => do
    let value ← value.eval scope
    return .flag (!value.truthy)
  | instanceof value function => do
    let value ← value.eval scope
    let function ← function.eval scope
    match function with
    | .function .error => return .flag value.isError
    | _ => .stuck
  | and left right => do
    let value ← left.eval scope
    if value.truthy then right.eval scope else return value
  | or left right => do
    let value ← left.eval scope
    if value.truthy then return value else right.eval scope
  | choose condition left right => do
    let value ← condition.eval scope
    if value.truthy then left.eval scope else right.eval scope

def Expr.evalAll (scope : Scope) : List Expr → Run (List Value)
  | [] => pure []
  | e :: es => do
    let value ← e.eval scope
    let values ← evalAll scope es
    return value :: values

end

mutual

/-- Runs a statement and gives the scope of the statements behind it. -/
def Stmt.exec (scope : Scope) : Stmt → Run Scope
  | const name value => do
    let value ← value.eval host scope
    return scope.bind name value
  | constPair _ _ _ => .stuck
  | run value => do
    let _ ← value.eval host scope
    return scope
  | throw value => do
    let reason ← value.eval host scope
    .throw reason
  | ifThen condition body => do
    let value ← condition.eval host scope
    if value.truthy then execAll scope body
    return scope
  | tryCatch body caught handler finalizer => do
    let caughtBody := Run.catching (execAll scope body) fun reason =>
      execAll (scope.bind caught reason) handler
    .ending caughtBody (execAll scope finalizer)
    return scope

def Stmt.execAll (scope : Scope) : List Stmt → Run Unit
  | [] => pure ()
  | s :: ss => do
    let scope ← s.exec scope
    execAll scope ss

end

variable {host} {scope : Scope} {s : Stmt} {ss : List Stmt} {page page' : Page}

theorem Expr.eval_construct_error {function message : String} {e : Expr}
    (hfunction : scope function = some (.function .error))
    (h : e.eval host scope page = some (.ok (.text message), page')) :
    (construct function [e]).eval host scope page = some (.ok (.error message), page') := by
  simp [eval, evalAll, hfunction, h]

theorem Stmt.exec_const {name : String} {e : Expr} {value : Value}
    (h : e.eval host scope page = some (.ok value, page')) :
    (const name e).exec host scope page = some (.ok (scope.bind name value), page') := by
  simp [exec, h]

theorem Stmt.exec_const_of_error {name : String} {e : Expr} {reason : Value}
    (h : e.eval host scope page = some (.error reason, page')) :
    (const name e).exec host scope page = some (.error reason, page') := by
  simp [exec, h]

theorem Stmt.exec_throw {e : Expr} {reason : Value}
    (h : e.eval host scope page = some (.ok reason, page')) :
    (throw e).exec host scope page = some (.error reason, page') := by
  simp [exec, h]

theorem Stmt.execAll_cons_of_ok {next : Scope}
    (h : s.exec host scope page = some (.ok next, page')) :
    execAll host scope (s :: ss) page = execAll host next ss page' := by
  rw [execAll, Run.bind_apply, h]

theorem Stmt.execAll_cons_of_error {reason : Value}
    (h : s.exec host scope page = some (.error reason, page')) :
    execAll host scope (s :: ss) page = some (.error reason, page') := by
  rw [execAll, Run.bind_apply, h]

end Meaning

end FormScaffold.Script
