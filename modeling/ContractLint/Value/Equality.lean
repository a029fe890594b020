import ContractLint.Value.Basic

/-! Equality of dynamic values is decidable. Two numbers are equal when they are the same number of the same
shape, so an integer differs from the floating-point number of its value. -/

namespace ContractLint.Value

mutual

/-- Whether two values are the same. -/
def same : Value → Value → Bool
  | .null, .null => true
  | .bool a, .bool b => a == b
  | .int a, .int b => a == b
  | .float a, .float b => a == b
  | .string a, .string b => a == b
  | .array a, .array b => sameElements a b
  | .object a, .object b => sameFields a b
  | _, _ => false

def sameElements : List Value → List Value → Bool
  | [], [] => true
  | a :: as, b :: bs => same a b && sameElements as bs
  | _, _ => false

def sameFields : List (Text × Value) → List (Text × Value) → Bool
  | [], [] => true
  | (k, a) :: as, (l, b) :: bs => k == l && same a b && sameFields as bs
  | _, _ => false

end

mutual

theorem same_iff_eq : ∀ a b : Value, same a b = true ↔ a = b
  | .null, b => by cases b <;> simp [same]
  | .bool _, b => by cases b <;> simp [same]
  | .int _, b => by cases b <;> simp [same]
  | .float _, b => by cases b <;> simp [same]
  | .string _, b => by cases b <;> simp [same]
  | .array as, b => by cases b <;> simp [same, sameElements_iff_eq as]
  | .object as, b => by cases b <;> simp [same, sameFields_iff_eq as]

theorem sameElements_iff_eq : ∀ as bs : List Value, sameElements as bs = true ↔ as = bs
  | [], bs => by cases bs <;> simp [sameElements]
  | a :: as, bs => by cases bs <;> simp [sameElements, same_iff_eq a, sameElements_iff_eq as]

theorem sameFields_iff_eq : ∀ as bs : List (Text × Value), sameFields as bs = true ↔ as = bs
  | [], bs => by cases bs <;> simp [sameFields]
  | (k, a) :: as, bs => by
    cases bs with
    | nil => simp [sameFields]
    | cons b bs =>
      obtain ⟨l, b⟩ := b
      simp [sameFields, same_iff_eq a, sameFields_iff_eq as]

end

instance : DecidableEq Value := fun a b => decidable_of_iff _ (same_iff_eq a b)

end ContractLint.Value
