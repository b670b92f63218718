import FormScaffold.Proofs.Script.Token

/-!
# Statements of a script

The statements of generated handlers and the expressions in them, as trees, with a reader from
tokens to trees (`read?`).  Operators bind as the language has it: a choice `c ? a : b` binds less
than `||`, then come `&&`, `instanceof`, the prefixes `!` and `await`, and members and calls bind
most.  Every reader gives a tree with the tokens behind it.  Nesting and lists are bounded by a
number, for which the number of the tokens is enough.
-/

namespace FormScaffold.Script

/-- An expression. -/
inductive Expr where
  | name (word : String)
  | text (value : String)
  | flag (value : Bool)
  | record (keys : List String) (values : List Expr)
  | member (object : Expr) (field : String)
  | call (function : Expr) (arguments : List Expr)
  | construct (function : String) (arguments : List Expr)
  | await (value : Expr)
  | not (value : Expr)
  | instanceof (value function : Expr)
  | and (left right : Expr)
  | or (left right : Expr)
  | choose (condition left right : Expr)
deriving Repr

/-- A statement.  A `try` without a `finally` has nothing to do at its end. -/
inductive Stmt where
  | const (name : String) (value : Expr)
  | constPair (first second : String) (value : Expr)
  | run (value : Expr)
  | throw (value : Expr)
  | ifThen (condition : Expr) (body : List Stmt)
  | tryCatch (body : List Stmt) (caught : String) (handler finalizer : List Stmt)
deriving Repr

/-! ## Readers -/

abbrev Reader (α : Type) := List Token → Option (α × List Token)

/-- What stands behind a token that must come first. -/
def expect? (token : Token) : List Token → Option (List Token)
  | [] => none
  | t :: ts => if t = token then some ts else none

/-- Items with commas between them up to a closing token; a comma may stand behind the last. -/
def items {α : Type} (item : Reader α) (close : Token) : Nat → Reader (List α)
  | 0, _ => none
  | n + 1, ts =>
    match expect? close ts with
    | some ts => some ([], ts)
    | none => do
      let (a, ts) ← item ts
      match expect? (.mark ',') ts with
      | some ts =>
        let (as, ts) ← items item close n ts
        return (a :: as, ts)
      | none =>
        let ts ← expect? close ts
        return ([a], ts)

section Levels

variable (expr : Reader Expr) (bound : Nat)

/-- A field of a record, its key a name or a text. -/
def field : Reader (String × Expr)
  | .name key :: .mark ':' :: ts | .text key :: .mark ':' :: ts => do
    let (value, ts) ← expr ts
    return ((key, value), ts)
  | _ => none

def primary : Reader Expr
  | .name word :: ts => some (.name word, ts)
  | .text value :: ts => some (.text value, ts)
  | .keyword .true_ :: ts => some (.flag true, ts)
  | .keyword .false_ :: ts => some (.flag false, ts)
  | .mark '(' :: ts => do
    let (e, ts) ← expr ts
    let ts ← expect? (.mark ')') ts
    return (e, ts)
  | .mark '\x7b' :: ts => do
    let (fields, ts) ← items (field expr) (.mark '\x7d') bound ts
    return (.record (fields.map (·.1)) (fields.map (·.2)), ts)
  | .keyword .new :: .name function :: .mark '(' :: ts => do
    let (arguments, ts) ← items expr (.mark ')') bound ts
    return (.construct function arguments, ts)
  | _ => none

/-- The members and calls behind an expression. -/
def suffixes : Nat → Expr → Reader Expr
  | 0, _, _ => none
  | n + 1, e, .mark '.' :: .name field :: ts => suffixes n (.member e field) ts
  | n + 1, e, .mark '(' :: ts => do
    let (arguments, ts) ← items expr (.mark ')') bound ts
    suffixes n (.call e arguments) ts
  | _ + 1, e, ts => some (e, ts)

def prefixed : Nat → Reader Expr
  | 0, _ => none
  | n + 1, .mark '!' :: ts => do
    let (e, ts) ← prefixed n ts
    return (.not e, ts)
  | n + 1, .keyword .await :: ts => do
    let (e, ts) ← prefixed n ts
    return (.await e, ts)
  | _ + 1, ts => do
    let (e, ts) ← primary expr bound ts
    suffixes expr bound bound e ts

end Levels

/-- The operands of an operator behind its first one, grouped from the left. -/
def operands (operator : Token) (combine : Expr → Expr → Expr) (operand : Reader Expr) :
    Nat → Expr → Reader Expr
  | 0, _, _ => none
  | n + 1, left, ts =>
    match expect? operator ts with
    | some ts => do
      let (right, ts) ← operand ts
      operands operator combine operand n (combine left right) ts
    | none => some (left, ts)

def operation (bound : Nat) (operator : Token) (combine : Expr → Expr → Expr)
    (operand : Reader Expr) : Reader Expr := fun ts => do
  let (left, ts) ← operand ts
  operands operator combine operand bound left ts

def expression : Nat → Reader Expr
  | 0, _ => none
  | n + 1, ts => do
    let relation := operation n (.keyword .instanceof) .instanceof (prefixed (expression n) n n)
    let conjunction := operation n (.mark '&') .and relation
    let (condition, ts) ← operation n (.mark '|') .or conjunction ts
    match expect? (.mark '?') ts with
    | some ts =>
      let (left, ts) ← expression n ts
      let ts ← expect? (.mark ':') ts
      let (right, ts) ← expression n ts
      return (.choose condition left right, ts)
    | none => return (condition, ts)

/-- An expression up to a semicolon. -/
def ended {α : Type} (bound : Nat) (make : Expr → α) : Reader α := fun ts => do
  let (e, ts) ← expression bound ts
  let ts ← expect? (.mark ';') ts
  return (make e, ts)

/-- The statements up to a closing brace. -/
def statements (statement : Reader Stmt) : Nat → Reader (List Stmt)
  | 0, _ => none
  | n + 1, ts =>
    match expect? (.mark '\x7d') ts with
    | some ts => some ([], ts)
    | none => do
      let (s, ts) ← statement ts
      let (ss, ts) ← statements statement n ts
      return (s :: ss, ts)

def block (statement : Reader Stmt) (bound : Nat) : Reader (List Stmt) := fun ts => do
  let ts ← expect? (.mark '\x7b') ts
  statements statement bound ts

def statement : Nat → Reader Stmt
  | 0, _ => none
  | n + 1, .keyword .const :: .name x :: .mark '=' :: ts => ended n (.const x) ts
  | n + 1, .keyword .const :: .mark '[' :: .name x :: .mark ',' :: .name y :: .mark ']' ::
      .mark '=' :: ts => ended n (.constPair x y) ts
  | n + 1, .keyword .throw_ :: ts => ended n .throw ts
  | n + 1, .keyword .if_ :: .mark '(' :: ts => do
    let (condition, ts) ← expression n ts
    let ts ← expect? (.mark ')') ts
    let (body, ts) ← block (statement n) n ts
    return (.ifThen condition body, ts)
  | n + 1, .keyword .try_ :: ts => do
    let (body, ts) ← block (statement n) n ts
    match ts with
    | .keyword .catch_ :: .mark '(' :: .name caught :: .mark ')' :: ts =>
      let (handler, ts) ← block (statement n) n ts
      match expect? (.keyword .finally_) ts with
      | some ts =>
        let (finalizer, ts) ← block (statement n) n ts
        return (.tryCatch body caught handler finalizer, ts)
      | none => return (.tryCatch body caught handler [], ts)
    | _ => none
  | _ + 1, .mark '\x7b' :: _ => none
  | n + 1, ts => ended n .run ts

/-- All statements of a list of tokens, read as a block. -/
def statements? (ts : List Token) : Option (List Stmt) :=
  match statements (statement (ts.length + 1)) (ts.length + 1) (ts ++ [.mark '\x7d']) with
  | some (body, []) => some body
  | _ => none

/-- The statements of a text. -/
def read? (source : String) : Option (List Stmt) := (tokens? source).bind statements?

theorem Lexes.read? {s : String} {ts : List Token} (h : Lexes s ts) :
    read? s = statements? ts := by
  rw [Script.read?, h.tokens?, Option.bind_some]

/-! ## Calls by name -/

mutual

/-- The names of the functions that an expression calls by their names alone. -/
def Expr.callees : Expr → List String
  | name _ | text _ | flag _ => []
  | record _ values => calleesAll values
  | member object _ => object.callees
  | call (name function) arguments => function :: calleesAll arguments
  | call function arguments => function.callees ++ calleesAll arguments
  | construct _ arguments => calleesAll arguments
  | await value | not value => value.callees
  | instanceof left right | and left right | or left right => left.callees ++ right.callees
  | choose condition left right => condition.callees ++ left.callees ++ right.callees

def Expr.calleesAll : List Expr → List String
  | [] => []
  | e :: es => e.callees ++ calleesAll es

end

mutual

/-- The names of the functions that a statement calls by their names alone. -/
def Stmt.callees : Stmt → List String
  | const _ value | constPair _ _ value | run value | throw value => value.callees
  | ifThen condition body => condition.callees ++ calleesAll body
  | tryCatch body _ handler finalizer =>
    calleesAll body ++ calleesAll handler ++ calleesAll finalizer

def Stmt.calleesAll : List Stmt → List String
  | [] => []
  | s :: ss => s.callees ++ calleesAll ss

end

theorem Stmt.calleesAll_append (ss ts : List Stmt) :
    calleesAll (ss ++ ts) = calleesAll ss ++ calleesAll ts := by
  induction ss with
  | nil => rfl
  | cons s ss ih => rw [List.cons_append, calleesAll, calleesAll, ih, List.append_assoc]

end FormScaffold.Script
