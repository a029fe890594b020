import ContractLint.Number.Double

/-! The order of numbers by their exact values. An integer and a floating-point number are compared without
rounding either. -/

namespace ContractLint

/-- A point of the line of numbers: one of its ends, or `m * 2 ^ e`. -/
inductive Extended where
  | bottom
  | dyadic (m e : Int)
  | top
  deriving DecidableEq, Repr

namespace Extended

def ofInt (n : Int) : Extended := .dyadic n 0

/-- The exact value of a floating-point number, if it is one. -/
def ofDouble? : Double → Option Extended
  | .nan => none
  | .infinite negative => some (if negative then .bottom else .top)
  | .finite negative m e => some (.dyadic (Double.signed negative m) e)

/-- The order on the line. Two finite points are brought to the lower of their exponents. -/
def compare : Extended → Extended → Ordering
  | .bottom, .bottom => .eq
  | .bottom, _ => .lt
  | _, .bottom => .gt
  | .top, .top => .eq
  | .top, _ => .gt
  | _, .top => .lt
  | .dyadic m e, .dyadic n f =>
    let least := min e f
    Ord.compare (m * Int.pow 2 (e - least).toNat) (n * Int.pow 2 (f - least).toNat)

@[simp] theorem compare_ofInt (m n : Int) : compare (ofInt m) (ofInt n) = Ord.compare m n := by
  show Ord.compare (m * 1) (n * 1) = Ord.compare m n
  rw [Int.mul_one, Int.mul_one]

end Extended

end ContractLint
