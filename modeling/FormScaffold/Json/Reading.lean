import FormScaffold.Json.Problem

/-!
# Reading JSON values

A value is read in the order of its text, so that the first problem of the text is the one that
is reported.  A value that nobody asked for is skipped: its syntax is checked, but neither the
size of its numbers nor the pairing of its surrogates.
-/

namespace FormScaffold.Json

/-! ## Strings -/

def StringFault.problem : StringFault → Problem
  | .cut => .endInString
  | .unknownEscape | .badDigits => .invalidEscape
  | .control => .controlCharacter

def isLowSurrogate (n : Nat) : Bool := 0xDC00 ≤ n && n ≤ 0xDFFF

def isHighSurrogate (n : Nat) : Bool := 0xD800 ≤ n && n ≤ 0xDBFF

/-- The character that a pair of surrogates denotes. -/
def pairChar (high low : Nat) : Char :=
  Char.ofNat (0x10000 + (high - 0xD800) * 0x400 + (low - 0xDC00))

/-- What is wrong when no unit comes after a high surrogate. -/
def afterHighSurrogate : Option StringFault → Problem
  | some .cut => .endInString
  | some .badDigits => .invalidEscape
  | some .unknownEscape | some .control | none => .unfinishedSurrogate

/-- The characters that units denote, given the fault behind them. -/
def decodeUnits (fault : Option StringFault) : List StringUnit → Except Problem (List Char)
  | [] =>
    match fault with
    | none => .ok []
    | some fault => .error fault.problem
  | .char c :: units => (decodeUnits fault units).map (c :: ·)
  | .code n :: units =>
    if isLowSurrogate n then .error .loneSurrogate
    else if isHighSurrogate n then
      match units with
      | [] => .error (afterHighSurrogate fault)
      | .char _ :: _ => .error .unfinishedSurrogate
      | .code low :: rest =>
        if isLowSurrogate low then (decodeUnits fault rest).map (pairChar n low :: ·)
        else .error .loneSurrogate
    else (decodeUnits fault units).map (Char.ofNat n :: ·)

/-- The text that a string denotes. -/
def RawString.decode (s : RawString) : Except Problem String :=
  (decodeUnits s.fault s.units).map String.ofList

/-- The check of a string that is skipped. -/
def RawString.skip (s : RawString) : Except Problem Unit :=
  match s.fault with
  | none => .ok ()
  | some fault => .error fault.problem

/-! ## Numbers -/

/-- Digits taken into a number while it fits into 64 bits: the number, and how many digits are
left. -/
def absorb : Nat → List Char → Nat × Nat
  | n, [] => (n, 0)
  | n, c :: cs =>
    let n' := n * 10 + (c.toNat - 0x30)
    if n' ≤ Text.word64 then absorb n' cs else (n, cs.length + 1)

/-- The natural number that digits denote. -/
def digitsValue (digits : List Char) : Nat := digits.foldl (fun n c => n * 10 + (c.toNat - 0x30)) 0

/-- A magnitude times a power of ten, with the powers that are too large for one step taken in
two. -/
def scaleUp (x : Binary64) (k : Nat) : Option Binary64 :=
  if k ≤ 308 then do x.mul (← Binary64.pow10 k) else if x.m = 0 then some x else none

/-- A magnitude divided by a power of ten, in steps of at most `10 ^ 308`. -/
def scaleDown (x : Binary64) (k : Nat) : Option Binary64 := do
  if k ≤ 308 then x.div (← Binary64.pow10 k)
  else
    let y ← x.div (← Binary64.pow10 308)
    if k ≤ 616 then y.div (← Binary64.pow10 (k - 308)) else some .zero

namespace Number

/-- The first digits of a number as an integer of 64 bits, and the power of ten behind it. -/
def significand (n : Number) : Nat × Int :=
  let (whole, left) := absorb 0 n.whole
  let (significand, leftFraction) := absorb whole n.fraction
  (significand, left - (n.fraction.length - leftFraction))

/-- The exponent as it is written. -/
def writtenExponent (n : Number) : Int :=
  match n.exponent with
  | none => 0
  | some (negative, digits) => if negative then -digitsValue digits else digitsValue digits

/-- The magnitude of a number: its significand, rounded, and scaled by a power of ten. -/
def magnitude (n : Number) : Option Binary64 := do
  let (significand, exponent) := n.significand
  let exponent := exponent + n.writtenExponent
  let x ← Binary64.nearest significand 1
  if 0 ≤ exponent then scaleUp x exponent.toNat else scaleDown x (-exponent).toNat

/-- Whether a number is written without a point and an exponent. -/
def isWhole (n : Number) : Bool := n.fraction.isEmpty && n.exponent.isNone

/-- What a number is.  Zero with a minus sign and integers beyond 64 bits are floating point. -/
def kind (n : Number) : Except Problem Kind :=
  let value := digitsValue n.whole
  if n.isWhole && !n.negative && value ≤ Text.word64 then .ok (.integer false value)
  else if n.isWhole && n.negative && 0 < value && value ≤ Nat.pow 2 63 then .ok (.integer true value)
  else match n.magnitude with
    | some x => .ok (.float n.negative x)
    | none => .error .numberOutOfRange

end Number

/-! ## Values -/

/-- The problem of a value that is not there. -/
def Break.problem : Break → Problem
  | .missing | .word .cut | .number .cut => .endInValue
  | .stray | .unread => .expectedValue
  | .word .misspelt => .expectedWord
  | .number .malformed => .invalidNumber
  | .cutColon => .endInObject
  | .noColon => .expectedColon

/-- The same in a value that is skipped, where a number that is cut is just invalid. -/
def Break.skipProblem : Break → Problem
  | .number _ => .invalidNumber
  | b => b.problem

/-- What is wrong with the end of a list. -/
def Ending.listProblem? : Ending → Option Problem
  | .closed => none
  | .cut => some .endInList
  | .cutAfterComma => some .endInValue
  | .afterComma => some .trailingComma
  | .noComma | .noKey | .unreached => some .expectedCommaOrBracket

/-- What is wrong with the end of an object. -/
def Ending.objectProblem? : Ending → Option Problem
  | .closed => none
  | .cut => some .endInObject
  | .cutAfterComma => some .endInValue
  | .afterComma => some .trailingComma
  | .noKey => some .keyMustBeString
  | .noComma | .unreached => some .expectedCommaOrBrace

/-- The same for a list that is skipped. -/
def Ending.listSkipProblem? : Ending → Option Problem
  | .afterComma => some .expectedValue
  | ending => ending.listProblem?

/-- The same for an object that is skipped. -/
def Ending.objectSkipProblem? : Ending → Option Problem
  | .cutAfterComma => some .endInObject
  | .afterComma => some .keyMustBeString
  | ending => ending.objectProblem?

/-- The result of an end. -/
def orElseOk : Option Problem → Except Problem Unit
  | none => .ok ()
  | some problem => .error problem

mutual

/-- The check of a value that is skipped. -/
def Value.skip : Value → Except Problem Unit
  | .null | .bool _ | .number _ => .ok ()
  | .string s => s.skip
  | .list items ending => do skipItems items; orElseOk ending.listSkipProblem?
  | .object members ending => do skipMembers members; orElseOk ending.objectSkipProblem?
  | .broken b => .error b.skipProblem

def skipItems : List Value → Except Problem Unit
  | [] => .ok ()
  | v :: vs => do v.skip; skipItems vs

def skipMembers : List (RawString × Value) → Except Problem Unit
  | [] => .ok ()
  | (key, v) :: members => do key.skip; v.skip; skipMembers members

end

namespace Value

/-- The problem of a value that should have been something else.  Its own faults come first,
but the inside of a list or an object is not looked at. -/
def mismatch (v : Value) (expected : String) : Problem :=
  match v with
  | null => .wrongType .null expected
  | bool b => .wrongType (.bool b) expected
  | number n =>
    match n.kind with
    | .ok kind => .wrongType kind expected
    | .error problem => problem
  | string s =>
    match s.decode with
    | .ok text => .wrongType (.string text) expected
    | .error problem => problem
  | list _ _ => .wrongType .list expected
  | object _ _ => .wrongType .object expected
  | broken b => b.problem

/-- Reads a text. -/
def readText : Value → Except Problem String
  | string s => s.decode
  | v => .error (v.mismatch "a string")

/-- Reads a truth value. -/
def readFlag : Value → Except Problem Bool
  | bool b => .ok b
  | v => .error (v.mismatch "a boolean")

/-- Reads a natural number of 64 bits. -/
def readCount (v : Value) : Except Problem Nat :=
  match v with
  | number n =>
    match n.kind with
    | .ok (.integer false count) => .ok count
    | .ok (.integer true count) => .error (.negativeCount count)
    | _ => .error (v.mismatch "usize")
  | _ => .error (v.mismatch "usize")

/-- Reads a value that may be `null`. -/
def readOptional {α : Type} (read : Value → Except Problem α) : Value → Except Problem (Option α)
  | null => .ok none
  | v => (read v).map some

/-- Reads the items of a list. -/
def readItems {α : Type} (read : Value → Except Problem α) : List Value → Except Problem (List α)
  | [] => .ok []
  | v :: vs => do
    let a ← read v
    let as ← readItems read vs
    return a :: as

/-- Reads a list. -/
def readList {α : Type} (read : Value → Except Problem α) (v : Value) :
    Except Problem (List α) :=
  match v with
  | list items ending => do
    let as ← readItems read items
    orElseOk ending.listProblem?
    return as
  | _ => .error (v.mismatch "a sequence")

end Value

/-- Reads a text as a whole: nothing may stand behind its value. -/
def Document.read {α : Type} (read : Value → Except Problem α) (document : Document) :
    Except Problem α := do
  let a ← read document.value
  if document.trailing then .error .trailingCharacters else return a

end FormScaffold.Json
