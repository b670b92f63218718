/-!
# Unsigned numerals

A numeral is an optional plus sign and one or more ASCII digits.  It is read only when its value
stays within a bound; zeros in front do not count.
-/

namespace FormScaffold.Text

/-- The value of a digit, for the sixteen digits of any base up to sixteen. -/
def digitValue? (c : Char) : Option Nat :=
  if '0' ≤ c ∧ c ≤ '9' then some (c.toNat - 0x30)
  else if 'a' ≤ c ∧ c ≤ 'f' then some (c.toNat - 0x61 + 10)
  else if 'A' ≤ c ∧ c ≤ 'F' then some (c.toNat - 0x41 + 10)
  else none

/-- The number that digits denote in a base, after a number already read. -/
def digitsValue? (base : Nat) : Nat → List Char → Option Nat
  | n, [] => some n
  | n, c :: cs =>
    match digitValue? c with
    | some d => if d < base then digitsValue? base (n * base + d) cs else none
    | none => none

/-- The number that one or more digits denote in a base. -/
def readDigits? (base : Nat) (cs : List Char) : Option Nat :=
  if cs.isEmpty then none else digitsValue? base 0 cs

/-- The number that a numeral with an optional plus sign denotes, if it is at most `bound`. -/
def readNumeral? (bound : Nat) (cs : List Char) : Option Nat :=
  let digits := match cs with
    | '+' :: rest => rest
    | _ => cs
  (readDigits? 10 digits).filter (· ≤ bound)

/-- The largest number that fits into 32 bits. -/
def word32 : Nat := Nat.pow 2 32 - 1

/-- The largest number that fits into 64 bits. -/
def word64 : Nat := Nat.pow 2 64 - 1

/-- The decimal digits of a number. -/
def decimal (n : Nat) : String := String.ofList (Nat.toDigits 10 n)

end FormScaffold.Text
