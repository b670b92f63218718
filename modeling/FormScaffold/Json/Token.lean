import FormScaffold.Text.Numeral

/-!
# JSON tokens

A text is cut into tokens.  A token that the text breaks off, or that is spelt wrongly, is kept
with its fault: whether and how the fault is reported depends on where the token stands.
-/

namespace FormScaffold.Json

/-- A unit of a string: a character, or a code unit that is written with four hexadecimal
digits. -/
inductive StringUnit where
  | char (c : Char)
  | code (n : Nat)
deriving DecidableEq, Repr

/-- What ends a string before its closing quote: the end of the text, an escape that does not
exist, an escape with bad digits, or a control character. -/
inductive StringFault where
  | cut | unknownEscape | badDigits | control
deriving DecidableEq, Repr

/-- A string as it is written. -/
structure RawString where
  units : List StringUnit
  fault : Option StringFault
deriving DecidableEq, Repr

/-- A number as it is written. -/
structure Number where
  negative : Bool
  whole : List Char
  /-- The digits after the point, none if there is no point -/
  fraction : List Char
  /-- Whether the exponent is negative, and its digits -/
  exponent : Option (Bool × List Char)
deriving DecidableEq, Repr

/-- What stands in place of a digit: the end of the text, or something else. -/
inductive NumberFault where
  | cut | malformed
deriving DecidableEq, Repr

/-- The three words. -/
inductive Word where
  | null | true | false
deriving DecidableEq, Repr

/-- The letters of a word after its first. -/
def Word.letters : Word → List Char
  | .null => ['u', 'l', 'l']
  | .true => ['r', 'u', 'e']
  | .false => ['a', 'l', 's', 'e']

/-- What is wrong with a word: the text ends in it, or it is spelt wrongly. -/
inductive WordFault where
  | cut | misspelt
deriving DecidableEq, Repr

inductive Token where
  | openList | closeList | openObject | closeObject | comma | colon
  | word (w : Word) (fault : Option WordFault)
  | number (n : Number) (fault : Option NumberFault)
  | string (s : RawString)
  | stray (c : Char)
deriving DecidableEq, Repr

/-! ## Words -/

/-- Reads the letters that are expected, up to the first that is not there. -/
def scanLetters : List Char → List Char → Option WordFault × List Char
  | [], cs => (none, cs)
  | _ :: _, [] => (some .cut, [])
  | l :: ls, c :: cs => if l = c then scanLetters ls cs else (some .misspelt, cs)

/-! ## Numbers -/

def isDigit (c : Char) : Bool := '0' ≤ c && c ≤ '9'

/-- The fault of a missing digit before a rest. -/
def missingDigit (rest : List Char) : NumberFault := if rest.isEmpty then .cut else .malformed

/-- Reads one or more digits. -/
def scanDigits (cs : List Char) : List Char × Option NumberFault × List Char :=
  let rest := cs.dropWhile isDigit
  match cs.takeWhile isDigit with
  | [] => ([], some (missingDigit cs), cs)
  | digits => (digits, none, rest)

/-- Reads the digits before the point, with no zero in front of another digit. -/
def scanWhole (cs : List Char) : List Char × Option NumberFault × List Char :=
  match cs with
  | '0' :: rest =>
    match rest with
    | [] => (['0'], none, rest)
    | c :: _ => if isDigit c then (['0'], some .malformed, rest) else (['0'], none, rest)
  | _ => scanDigits cs

/-- Reads the digits after a point, if there is one. -/
def scanFraction (cs : List Char) : List Char × Option NumberFault × List Char :=
  match cs with
  | '.' :: rest => scanDigits rest
  | _ => ([], none, cs)

/-- Reads the sign of an exponent, if there is one: whether it is a minus sign, and the rest. -/
def scanSign : List Char → Bool × List Char
  | '+' :: rest => (false, rest)
  | '-' :: rest => (true, rest)
  | cs => (false, cs)

/-- Reads an exponent, if there is one. -/
def scanExponent (cs : List Char) :
    Option (Bool × List Char) × Option NumberFault × List Char :=
  match cs with
  | c :: rest =>
    if c = 'e' ∨ c = 'E' then
      let (negative, rest) := scanSign rest
      let (digits, fault, rest) := scanDigits rest
      (some (negative, digits), fault, rest)
    else (none, none, cs)
  | [] => (none, none, [])

/-- Reads a number after its sign. -/
def scanNumber (negative : Bool) (cs : List Char) : Token × List Char :=
  let (whole, fault, rest) := scanWhole cs
  if fault.isSome then (.number ⟨negative, whole, [], none⟩ fault, rest) else
  let (fraction, fault, rest) := scanFraction rest
  if fault.isSome then (.number ⟨negative, whole, fraction, none⟩ fault, rest) else
  let (exponent, fault, rest) := scanExponent rest
  (.number ⟨negative, whole, fraction, exponent⟩ fault, rest)

/-! ## Strings -/

/-- The character that a one-letter escape stands for. -/
def escapeMeaning? : Char → Option Char
  | '\x22' => some '\x22'
  | '\\' => some '\\'
  | '/' => some '/'
  | 'b' => some '\x08'
  | 'f' => some '\x0c'
  | 'n' => some '\n'
  | 'r' => some '\r'
  | 't' => some '\t'
  | _ => none

/-- The code unit that four hexadecimal digits denote. -/
def codeUnit? (a b c d : Char) : Option Nat := Text.digitsValue? 16 0 [a, b, c, d]

/-- How many bytes a text takes in UTF-8. -/
def byteLength (cs : List Char) : Nat := cs.foldr (fun c n => c.utf8Size + n) 0

/-- The fault of an escape whose four digits are not there: the text ends when fewer than four
bytes are left. -/
def digitsFault (rest : List Char) : StringFault := if byteLength rest < 4 then .cut else .badDigits

/-- Puts a unit in front of a string that has been read. -/
def consUnit (u : StringUnit) : RawString × List Char → RawString × List Char
  | (s, rest) => (⟨u :: s.units, s.fault⟩, rest)

/-- A string that ends with a fault. -/
def faulty (fault : StringFault) (rest : List Char) : RawString × List Char :=
  (⟨[], some fault⟩, rest)

/-- Reads a string up to its closing quote, or up to its fault. -/
def scanString : List Char → RawString × List Char
  | [] => faulty .cut []
  | '\x22' :: rest => (⟨[], none⟩, rest)
  | '\\' :: 'u' :: a :: b :: c :: d :: rest =>
    match codeUnit? a b c d with
    | some n => consUnit (.code n) (scanString rest)
    | none => faulty (digitsFault (a :: b :: c :: d :: rest)) rest
  | '\\' :: 'u' :: rest => faulty (digitsFault rest) rest
  | '\\' :: e :: rest =>
    match escapeMeaning? e with
    | some c => consUnit (.char c) (scanString rest)
    | none => faulty .unknownEscape rest
  | ['\\'] => faulty .cut []
  | c :: rest =>
    if c.toNat < 0x20 then faulty .control rest else consUnit (.char c) (scanString rest)

/-! ## Texts -/

/-- The white space between tokens. -/
def isSpace (c : Char) : Bool := c = ' ' || c = '\t' || c = '\n' || c = '\r'

/-- The first token of a text that begins with a character, and the rest. -/
def scanToken (c : Char) (cs : List Char) : Token × List Char :=
  match c with
  | '[' => (.openList, cs)
  | ']' => (.closeList, cs)
  | '\x7b' => (.openObject, cs)
  | '\x7d' => (.closeObject, cs)
  | ',' => (.comma, cs)
  | ':' => (.colon, cs)
  | '\x22' => let (s, rest) := scanString cs; (.string s, rest)
  | 'n' => let (fault, rest) := scanLetters Word.null.letters cs; (.word .null fault, rest)
  | 't' => let (fault, rest) := scanLetters Word.true.letters cs; (.word .true fault, rest)
  | 'f' => let (fault, rest) := scanLetters Word.false.letters cs; (.word .false fault, rest)
  | '-' => scanNumber true cs
  | _ => if isDigit c then scanNumber false (c :: cs) else (.stray c, cs)

/-! ## Every token takes something from the text -/

theorem length_scanLetters_le (ls cs : List Char) :
    (scanLetters ls cs).2.length ≤ cs.length := by
  induction ls generalizing cs with
  | nil => simp [scanLetters]
  | cons l ls ih =>
    cases cs with
    | nil => simp [scanLetters]
    | cons c cs =>
      simp only [scanLetters]
      split
      · exact Nat.le_succ_of_le (ih cs)
      · simp

theorem length_dropWhile_le {α : Type} (p : α → Bool) (l : List α) :
    (l.dropWhile p).length ≤ l.length := by
  induction l with
  | nil => simp
  | cons a l ih =>
    rw [List.dropWhile_cons]
    split
    · exact Nat.le_succ_of_le ih
    · exact Nat.le_refl _

theorem length_scanDigits_le (cs : List Char) : (scanDigits cs).2.2.length ≤ cs.length := by
  simp only [scanDigits]
  split
  · exact Nat.le_refl _
  · exact length_dropWhile_le _ _

/-- A first digit is taken. -/
theorem length_scanWhole_lt (c : Char) (cs : List Char) (h : isDigit c = true) :
    (scanWhole (c :: cs)).2.2.length < (c :: cs).length := by
  unfold scanWhole
  split
  · next rest heq =>
    cases heq
    cases cs with
    | nil => simp
    | cons d ds => dsimp only; split <;> simp
  · simp only [scanDigits, List.takeWhile_cons, h, if_true, List.dropWhile_cons]
    exact Nat.lt_succ_of_le (length_dropWhile_le _ _)

theorem length_scanWhole_le (cs : List Char) : (scanWhole cs).2.2.length ≤ cs.length := by
  unfold scanWhole
  split
  · next rest =>
    cases rest with
    | nil => simp
    | cons d ds => dsimp only; split <;> simp
  · exact length_scanDigits_le _

theorem length_scanFraction_le (cs : List Char) :
    (scanFraction cs).2.2.length ≤ cs.length := by
  unfold scanFraction
  split
  · exact Nat.le_succ_of_le (length_scanDigits_le _)
  · exact Nat.le_refl _

theorem length_scanSign_le (cs : List Char) : (scanSign cs).2.length ≤ cs.length := by
  unfold scanSign
  split <;> simp

theorem length_scanExponent_le (cs : List Char) :
    (scanExponent cs).2.2.length ≤ cs.length := by
  unfold scanExponent
  split
  · next c rest =>
    split
    · exact Nat.le_succ_of_le (Nat.le_trans (length_scanDigits_le _) (length_scanSign_le rest))
    · exact Nat.le_refl _
  · exact Nat.le_refl _

theorem length_scanNumber_le (negative : Bool) (cs : List Char) :
    (scanNumber negative cs).2.length ≤ (scanWhole cs).2.2.length := by
  simp only [scanNumber]
  split
  · exact Nat.le_refl _
  · split
    · exact length_scanFraction_le _
    · exact Nat.le_trans (length_scanExponent_le _) (length_scanFraction_le _)

theorem length_scanString_le (cs : List Char) : (scanString cs).2.length ≤ cs.length := by
  fun_induction scanString cs <;> simp_all [faulty, consUnit] <;> omega

theorem length_scanToken_le (c : Char) (cs : List Char) :
    (scanToken c cs).2.length ≤ cs.length := by
  unfold scanToken
  split <;> try exact Nat.le_refl _
  · exact length_scanString_le cs
  · exact length_scanLetters_le _ cs
  · exact length_scanLetters_le _ cs
  · exact length_scanLetters_le _ cs
  · exact Nat.le_trans (length_scanNumber_le true cs) (length_scanWhole_le cs)
  · split
    · next h =>
      exact Nat.le_of_lt_succ
        (Nat.lt_of_le_of_lt (length_scanNumber_le false (c :: cs)) (length_scanWhole_lt c cs h))
    · exact Nat.le_refl _

/-- The tokens of a text. -/
def tokenize : List Char → List Token
  | [] => []
  | c :: cs =>
    if isSpace c then tokenize cs
    else (scanToken c cs).1 :: tokenize (scanToken c cs).2
termination_by cs => cs.length
decreasing_by
  · simp
  · exact Nat.lt_succ_of_le (length_scanToken_le c cs)

end FormScaffold.Json
