import FormScaffold.Text.Numeral
import FormScaffold.Text.Order
import FormScaffold.Text.Split

/-!
# Versions

A version has three numbers, an optional pre-release behind a hyphen and optional build data
behind a plus sign.  Versions are ordered in full, build data included.  A snapshot that a newer
generator has written is read with a warning.
-/

namespace FormScaffold

/-- A version.  Pre-release and build data are lists of identifiers, empty if there are none. -/
structure Version where
  major : Nat
  minor : Nat
  patch : Nat
  pre : List (List Char)
  build : List (List Char)
deriving DecidableEq, Repr

namespace Version

open Text (compareChars compareLists)

/-! ## Reading -/

def isDigitChar (c : Char) : Bool := c.isDigit

def isIdentifierChar (c : Char) : Bool := c.isAlphanum || c = '-'

/-- Digits without a zero in front of another one. -/
def isPlainNumeral (cs : List Char) : Bool :=
  match cs with
  | [] => false
  | ['0'] => true
  | '0' :: _ => false
  | _ => cs.all isDigitChar

/-- One of the three numbers. -/
def number? (cs : List Char) : Option Nat :=
  if isPlainNumeral cs then (Text.readDigits? 10 cs).filter (· ≤ Text.word64) else none

/-- An identifier of build data. -/
def isBuildIdentifier (cs : List Char) : Bool := !cs.isEmpty && cs.all isIdentifierChar

/-- An identifier of a pre-release: one of digits only must be plain. -/
def isPreIdentifier (cs : List Char) : Bool :=
  isBuildIdentifier cs && (!cs.all isDigitChar || isPlainNumeral cs)

/-- The identifiers between dots, if all of them satisfy a test. -/
def identifiers? (test : List Char → Bool) (cs : List Char) : Option (List (List Char)) :=
  let parts := Text.split (· = '.') cs
  if parts.all test then some parts else none

/-- What stands before a mark, and the identifiers behind it if the mark is there. -/
def cutIdentifiers? (mark : Char) (test : List Char → Bool) (cs : List Char) :
    Option (List Char × List (List Char)) :=
  match Text.cutFirst (· = mark) cs with
  | none => some (cs, [])
  | some (before, after) => (identifiers? test after).map fun ids => (before, ids)

/-- The version that characters denote. -/
def ofChars? (cs : List Char) : Option Version := do
  let (cs, build) ← cutIdentifiers? '+' isBuildIdentifier cs
  let (cs, pre) ← cutIdentifiers? '-' isPreIdentifier cs
  match Text.split (· = '.') cs with
  | [major, minor, patch] =>
    return {
      major := ← number? major
      minor := ← number? minor
      patch := ← number? patch
      pre, build }
  | _ => none

/-- The characters of a version without any `v` in front. -/
def stripMark (s : String) : List Char := s.toList.dropWhile (· = 'v')

/-! ## Order -/

/-- Compares two identifiers: numbers come before words, and numbers are compared as given. -/
def compareIdentifiers (compareNumbers : List Char → List Char → Ordering) (a b : List Char) :
    Ordering :=
  match a.all isDigitChar, b.all isDigitChar with
  | true, true => compareNumbers a b
  | true, false => .lt
  | false, true => .gt
  | false, false => compareChars a b

/-- Numbers without zeros in front: the shorter one is less. -/
def comparePlain (a b : List Char) : Ordering :=
  (compare a.length b.length).then (compareChars a b)

/-- Numbers with zeros in front: by value, and of equal values the shorter one is less. -/
def comparePadded (a b : List Char) : Ordering :=
  (comparePlain (a.dropWhile (· = '0')) (b.dropWhile (· = '0'))).then
    (compare a.length b.length)

/-- Pre-releases: a version without one comes after all that have one. -/
def comparePre : List (List Char) → List (List Char) → Ordering
  | [], [] => .eq
  | [], _ :: _ => .gt
  | _ :: _, [] => .lt
  | as, bs => compareLists (compareIdentifiers comparePlain) as bs

/-- Build data: none comes before any. -/
def compareBuild : List (List Char) → List (List Char) → Ordering :=
  compareLists (compareIdentifiers comparePadded)

/-- The order of versions. -/
def cmp (v w : Version) : Ordering :=
  (compare v.major w.major).then <| (compare v.minor w.minor).then <|
    (compare v.patch w.patch).then <| (comparePre v.pre w.pre).then (compareBuild v.build w.build)

/-- The warning about a snapshot of a version that is newer than the running one.  Texts that are
no versions are not compared. -/
def newerWarning? (running written : String) : Option String := do
  let current ← ofChars? (stripMark running)
  let writer ← ofChars? (stripMark written)
  if cmp current writer = .lt then
    some ("This configuration was saved by formgen " ++ String.ofList (stripMark written) ++
      "; you are running " ++ String.ofList (stripMark running) ++
      ".\nOptions added since may be ignored. Consider updating: " ++
      "cargo install formgen-tools --force")
  else none

end Version

end FormScaffold
