import ContractLint.Number.Double

/-! Decimal text of binary numbers. The shortest form has the fewest digits that still round to the number
and, among those, is nearest to it. The fixed form rounds the exact value to a given number of places. -/

namespace ContractLint.Double

/-- A decimal `digits * 10 ^ exponent`. -/
structure Decimal where
  digits : Nat
  exponent : Int
  deriving DecidableEq, Repr, Inhabited

namespace Decimal

/-- The order of a decimal against the ratio `num / den`. -/
def compareRatio (d : Decimal) (num den : Nat) : Ordering :=
  let s := scaleDecimal d.digits 1 d.exponent
  compare (s.1 * den) (num * s.2)

/-- Drops trailing zeros, at most `fuel` of them. -/
def dropZeros : Nat → Decimal → Decimal
  | 0, d => d
  | fuel + 1, d =>
    if d.digits % 10 = 0 ∧ d.digits ≠ 0 then dropZeros fuel ⟨d.digits / 10, d.exponent + 1⟩ else d

end Decimal

/-- The position `k` of the point with `10 ^ (k - 1) ≤ num / den < 10 ^ k`. -/
def decimalPoint (num den : Nat) : Int :=
  if den ≤ num then digitCount (num / den) else 1 - (digitCount ((den + num - 1) / num - 1) : Int)

/-- The interval of the reals that round to a number, between two ratios. -/
structure Neighbourhood where
  low : Nat × Nat
  high : Nat × Nat
  closed : Bool

/-- Half-way to the numbers below and above, which the quarters of the last place express. The gap below a power
of two is half the gap above it. A tie goes to the even significand, which decides on the bounds themselves. -/
def neighbourhood (m : Nat) (e : Int) : Neighbourhood where
  low := ratio (if m = Nat.pow 2 52 ∧ e > minExponent then 4 * m - 1 else 4 * m - 2) (e - 2)
  high := ratio (4 * m + 2) (e - 2)
  closed := m % 2 == 0

def Neighbourhood.contains (i : Neighbourhood) (d : Decimal) : Bool :=
  match d.compareRatio i.low.1 i.low.2, d.compareRatio i.high.1 i.high.2 with
  | .gt, .lt => true
  | .eq, _ => i.closed
  | _, .eq => i.closed
  | _, _ => false

/-- The nearest decimal with `count` digits, if it lies in the neighbourhood. The two candidates are the
neighbours of the value on the grid of such decimals. -/
def nearestWith (m : Nat) (e : Int) (count : Nat) : Option Decimal :=
  let r := ratio m e
  let grid := decimalPoint r.1 r.2 - count
  let s := scaleDecimal r.1 r.2 (-grid)
  let below : Decimal := ⟨s.1 / s.2, grid⟩
  let above : Decimal := ⟨s.1 / s.2 + 1, grid⟩
  let near : Decimal := ⟨roundDiv s.1 s.2, grid⟩
  let i := neighbourhood m e
  match i.contains below, i.contains above with
  | true, true => some near
  | true, false => some below
  | false, true => some above
  | false, false => none

/-- The shortest decimal that rounds to `m * 2 ^ e`, for `m` positive; seventeen digits always suffice. -/
def shortest (m : Nat) (e : Int) : Decimal :=
  (((List.range 17).findSome? fun n => nearestWith m e (n + 1)).getD ⟨0, 0⟩).dropZeros 17

/-! ### Text -/

def signText (negative : Bool) : String := if negative then "-" else ""

/-- A run of zeros. -/
def zerosText (n : Nat) : String := String.ofList (List.replicate n '0')

/-- An exponent has a sign and at least two digits. -/
def exponentText (e : Int) : String :=
  let digits := toString e.natAbs
  (if e < 0 then "e-" else "e+") ++ (if e.natAbs < 10 then "0" ++ digits else digits)

/-- Positional from `10 ^ -4` up to `10 ^ 16`, with at least one digit on each side of the point; scientific
elsewhere. -/
def Decimal.text (d : Decimal) : String :=
  let digits := Nat.toDigits 10 d.digits
  let point := digits.length + d.exponent
  let str (cs : List Char) := String.ofList cs
  if -4 < point ∧ point ≤ 16 then
    if point ≤ 0 then "0." ++ zerosText (-point).toNat ++ str digits
    else if digits.length ≤ point then str digits ++ zerosText (point - digits.length).toNat ++ ".0"
    else str (digits.take point.toNat) ++ "." ++ str (digits.drop point.toNat)
  else
    let fraction := digits.drop 1
    str (digits.take 1) ++ (if fraction.isEmpty then "" else "." ++ str fraction) ++ exponentText (point - 1)

/-- The shortest text that reads back as the same number. -/
def text : Double → String
  | .nan => "nan"
  | .infinite negative => signText negative ++ "inf"
  | .finite negative m e => signText negative ++ if m = 0 then "0.0" else (shortest m e).text

/-- The text with `places` digits after the point, rounded from the exact value with ties to even. -/
def fixedText (places : Nat) : Double → String
  | .nan => "nan"
  | .infinite negative => signText negative ++ "inf"
  | .finite negative m e =>
    let r := ratio m e
    let n := roundDiv (r.1 * Nat.pow 10 places) r.2
    let fraction := toString (n % Nat.pow 10 places)
    signText negative ++ toString (n / Nat.pow 10 places) ++ "." ++ zerosText (places - fraction.length) ++ fraction

end ContractLint.Double
