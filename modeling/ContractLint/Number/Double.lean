/-! Binary floating-point numbers with 53 significant bits, held as exact values rather than bit patterns.
Rounding takes an exact ratio to its nearest representable neighbour, a tie to the even one, so every
conversion below is integer arithmetic. -/

namespace ContractLint

/-- A number of the 64-bit binary format. A finite one is `± significand * 2 ^ exponent`. -/
inductive Double where
  | nan
  | infinite (negative : Bool)
  | finite (negative : Bool) (significand : Nat) (exponent : Int)
  deriving DecidableEq, Repr, Inhabited

/-- The quotient rounded to the nearest integer, a tie to the even one. -/
def roundDiv (num den : Nat) : Nat :=
  let q := num / den
  let r := num % den
  if 2 * r < den then q else if den < 2 * r then q + 1 else if q % 2 = 0 then q else q + 1

namespace Double

/-- The exponent of the smallest positive number. -/
def minExponent : Int := -1074

/-- The exponent of the numbers of greatest magnitude. -/
def maxExponent : Int := 971

def zero (negative : Bool) : Double := .finite negative 0 minExponent

/-- The ratio `num / den / 2 ^ e` with natural numerator and denominator. -/
def scaleBinary (num den : Nat) (e : Int) : Nat × Nat :=
  if 0 ≤ e then (num, den * Nat.pow 2 e.toNat) else (num * Nat.pow 2 (-e).toNat, den)

/-- The ratio `num / den * 10 ^ e` with natural numerator and denominator. -/
def scaleDecimal (num den : Nat) (e : Int) : Nat × Nat :=
  if 0 ≤ e then (num * Nat.pow 10 e.toNat, den) else (num, den * Nat.pow 10 (-e).toNat)

/-- The least exponent at which `num / den` has at most 53 significant bits before the point. -/
def binaryExponent (num den : Nat) : Int :=
  let e : Int := (num.log2 : Int) - (den.log2 : Int) - 53
  let s := scaleBinary num den e
  max (if s.1 / s.2 < Nat.pow 2 53 then e else e + 1) minExponent

/-- The finite number, or infinity where its exponent is out of range. -/
def pack (negative : Bool) (significand : Nat) (exponent : Int) : Double :=
  if exponent > maxExponent then .infinite negative else .finite negative significand exponent

/-- The number nearest to the ratio of two naturals, with the given sign. -/
def ofRatio (negative : Bool) (num den : Nat) : Double :=
  if num = 0 then zero negative
  else
    let e := binaryExponent num den
    let s := scaleBinary num den e
    let m := roundDiv s.1 s.2
    if m = Nat.pow 2 53 then pack negative (Nat.pow 2 52) (e + 1) else pack negative m e

/-- The number nearest to an integer, if that is not out of range. -/
def ofInt? (n : Int) : Option Double :=
  match ofRatio (n < 0) n.natAbs 1 with
  | .infinite _ => none
  | x => some x

/-- The count of decimal digits of a natural, none for zero. -/
def digitCount (n : Nat) : Nat := if n = 0 then 0 else (Nat.toDigits 10 n).length

/-- The number nearest to `± digits * 10 ^ exponent`. Magnitudes far outside the format's range are settled by
the count of digits, so that no power of ten beyond that range is ever formed. -/
def ofDecimal (negative : Bool) (digits : Nat) (exponent : Int) : Double :=
  let magnitude := exponent + digitCount digits
  if digits = 0 then zero negative
  else if magnitude > 310 then .infinite negative
  else if magnitude < -330 then zero negative
  else
    let s := scaleDecimal digits 1 exponent
    ofRatio negative s.1 s.2

def isZero : Double → Bool
  | .finite _ m _ => m == 0
  | _ => false

/-- `magnitude` as an integer with the given sign. -/
def signed (negative : Bool) (magnitude : Nat) : Int :=
  if negative then -(magnitude : Int) else magnitude

/-- The magnitude of a finite number as a ratio. -/
def ratio (significand : Nat) (exponent : Int) : Nat × Nat := scaleBinary significand 1 (-exponent)

/-- The integer part of a finite number. -/
def integerPart (negative : Bool) (significand : Nat) (exponent : Int) : Int :=
  let r := ratio significand exponent
  signed negative (r.1 / r.2)

end Double

end ContractLint
