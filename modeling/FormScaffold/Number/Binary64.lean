/-!
# Binary floating point with 53 bits

A magnitude is `m * 2 ^ e` with `m < 2 ^ 53` and `-1074 ≤ e ≤ 971`; below the least exponent `m`
has all of its 53 bits.  Arithmetic rounds the exact result to the nearest magnitude, and of two
that are equally near to the one with an even `m`.
-/

namespace FormScaffold

/-- A finite magnitude `m * 2 ^ e`. -/
structure Binary64 where
  m : Nat
  e : Int
deriving DecidableEq, Repr

namespace Binary64

def zero : Binary64 := ⟨0, -1074⟩

/-- The exact value, as a quotient. -/
def num (x : Binary64) : Nat := x.m * Nat.pow 2 x.e.toNat

def den (x : Binary64) : Nat := Nat.pow 2 (-x.e).toNat

/-- A quotient rounded to the nearest natural number, a half to the even one. -/
def roundDiv (num den : Nat) : Nat :=
  let q := num / den
  let twice := 2 * (num % den)
  if twice > den ∨ (twice = den ∧ q % 2 = 1) then q + 1 else q

/-- The quotient `num / den` divided by a power of two, as a numerator and a denominator. -/
def scaled (num den : Nat) (e : Int) : Nat × Nat :=
  (num * Nat.pow 2 (-e).toNat, den * Nat.pow 2 e.toNat)

/-- The exponent at which a quotient has 53 bits before the point, but at least the least one. -/
def exponentFor (num den : Nat) : Int :=
  let e := max ((num.log2 : Int) - den.log2 - 53) (-1074)
  let (n, d) := scaled num den e
  if n / d < Nat.pow 2 53 then e else e + 1

/-- The magnitude nearest to a quotient, unless it is out of range. -/
def nearest (num den : Nat) : Option Binary64 :=
  if num = 0 then some zero else
  let e := exponentFor num den
  let (n, d) := scaled num den e
  let m := roundDiv n d
  let x : Binary64 := if m < Nat.pow 2 53 then ⟨m, e⟩ else ⟨Nat.pow 2 52, e + 1⟩
  if x.e ≤ 971 then some x else none

def mul (x y : Binary64) : Option Binary64 := nearest (x.num * y.num) (x.den * y.den)

/-- The quotient of two magnitudes.  The divisor is not zero. -/
def div (x y : Binary64) : Option Binary64 := nearest (x.num * y.den) (x.den * y.num)

/-- The power of ten, rounded. -/
def pow10 (k : Nat) : Option Binary64 := nearest (Nat.pow 10 k) 1

/-! ## The fewest digits that read back -/

/-- A decimal `digits * 10 ^ exponent`. -/
structure Decimal where
  digits : Nat
  exponent : Int
deriving DecidableEq, Repr

namespace Decimal

/-- The magnitude nearest to a decimal. -/
def toBinary (d : Decimal) : Option Binary64 :=
  nearest (d.digits * Nat.pow 10 d.exponent.toNat) (Nat.pow 10 (-d.exponent).toNat)

/-- The same number without zeros at the end of its digits. -/
def strip (d : Decimal) : Decimal :=
  if d.digits ≠ 0 ∧ d.digits % 10 = 0 then strip ⟨d.digits / 10, d.exponent + 1⟩ else d
termination_by d.digits
decreasing_by omega

end Decimal

def digitCount (n : Nat) : Nat := (Nat.toDigits 10 n).length

/-- The power of ten just above a magnitude that is not zero. -/
def decimalExponent (x : Binary64) : Int :=
  if x.den ≤ x.num then digitCount (x.num / x.den) else 1 - digitCount ((x.den - 1) / x.num)

/-- The decimal with a number of digits that is nearest to a magnitude among those that read back
to it. -/
def withDigits? (x : Binary64) (count : Nat) : Option Decimal :=
  let exponent := x.decimalExponent - count
  let num := x.num * Nat.pow 10 (-exponent).toNat
  let den := x.den * Nat.pow 10 exponent.toNat
  let below : Decimal := ⟨num / den, exponent⟩
  let above : Decimal := ⟨num / den + 1, exponent⟩
  if below.toBinary = some x then
    if above.toBinary = some x ∧ den < 2 * (num % den) then some above else some below
  else if above.toBinary = some x then some above
  else none

/-- The shortest decimal that reads back to a magnitude.  Seventeen digits always do. -/
def shortest (x : Binary64) : Decimal :=
  (((List.range 17).findSome? fun k => x.withDigits? (k + 1)).getD ⟨x.num / x.den, 0⟩).strip

/-! ## Text -/

/-- The text of a magnitude: the fewest digits that read back, positional from `1e-5` up to
`1e16` with at least one digit after the point, and with a signed exponent elsewhere. -/
def text (x : Binary64) : String :=
  if x.m = 0 then "0.0" else
  let d := x.shortest
  let digits := Nat.toDigits 10 d.digits
  let point : Int := digits.length + d.exponent
  if -5 < point ∧ point ≤ 16 then
    if point ≤ 0 then
      "0." ++ String.ofList (List.replicate (-point).toNat '0' ++ digits)
    else
      let whole := (digits ++ List.replicate d.exponent.toNat '0').take point.toNat
      let fraction := digits.drop point.toNat
      String.ofList whole ++ "." ++
        (if fraction.isEmpty then "0" else String.ofList fraction)
  else
    String.ofList (digits.take 1) ++
      (if digits.length = 1 then "" else "." ++ String.ofList (digits.drop 1)) ++
      (if 0 < point then "e+" else "e-") ++
      String.ofList (Nat.toDigits 10 (point - 1).natAbs)

end Binary64

end FormScaffold
