import ContractLint.Number.Order
import ContractLint.Value.Basic

/-! Values compared by what they are worth. Numbers and truth values are alike when they are the same number,
whatever their shape, and objects when they have the same fields in any order. Numbers, texts and arrays are ordered
among their own kind; to ask for the order of anything else is an error. -/

namespace ContractLint

namespace Value

/-- The number that a value is; truth counts as one. The inner option is empty for not-a-number. -/
def number? : Value → Option (Option Extended)
  | .bool b => some (some (.ofInt (if b then 1 else 0)))
  | .int n => some (some (.ofInt n))
  | .float x => some (Extended.ofDouble? x)
  | _ => none

/-- How two numbers compare, unless one of them is not-a-number. -/
def compareNumbers (x y : Option Extended) : Option Ordering := do return (← x).compare (← y)

mutual

/-- Whether two values are worth the same. -/
def alike : Value → Value → Bool
  | .null, .null => true
  | .string a, .string b => a == b
  | .array a, .array b => alikeElements a b
  | .object a, .object b => a.length == b.length && alikeFields a b
  | .float .nan, .float .nan => true
  | a, b =>
    match a.number?, b.number? with
    | some x, some y => compareNumbers x y == some .eq
    | _, _ => false

def alikeElements : List Value → List Value → Bool
  | [], [] => true
  | a :: as, b :: bs => alike a b && alikeElements as bs
  | _, _ => false

/-- Whether every field of the first list has its like in the second. -/
def alikeFields : List (Text × Value) → List (Text × Value) → Bool
  | [], _ => true
  | (key, a) :: as, bs =>
    (match Assoc.get? bs key with
      | some b => alike a b
      | none => false) && alikeFields as bs

end

/-- Whether a value is worth zero. -/
def isZero (v : Value) : Bool := v.alike (.int 0)

end Value

/-- A relation between values that are in order. -/
inductive Relation where
  | less
  | lessOrEqual
  | greater
  deriving DecidableEq, Repr

namespace Relation

def symbol : Relation → String
  | .less => "<"
  | .lessOrEqual => "<="
  | .greater => ">"

/-- Whether the relation holds; nothing holds of not-a-number. -/
def holds : Relation → Option Ordering → Bool
  | .less, o => o == some .lt
  | .lessOrEqual, o => o == some .lt || o == some .eq
  | .greater, o => o == some .gt

end Relation

/-- Two values that were asked for their order and have none. -/
structure OrderError where
  relation : Relation
  left : Shape
  right : Shape
  deriving DecidableEq, Repr

def OrderError.message (e : OrderError) : String :=
  "'" ++ e.relation.symbol ++ "' not supported between instances of '" ++ e.left.name ++ "' and '" ++ e.right.name ++ "'"

namespace Value

mutual

/-- Whether two values are in a relation. Arrays are in that of the first elements that differ. -/
def related (r : Relation) : Value → Value → Except OrderError Bool
  | .string a, .string b => .ok (r.holds (some (a.compare b)))
  | .array a, .array b => relatedElements r a b
  | a, b =>
    match a.number?, b.number? with
    | some x, some y => .ok (r.holds (compareNumbers x y))
    | _, _ => .error ⟨r, a.shape, b.shape⟩

def relatedElements (r : Relation) : List Value → List Value → Except OrderError Bool
  | [], [] => .ok (r.holds (some .eq))
  | [], _ :: _ => .ok (r.holds (some .lt))
  | _ :: _, [] => .ok (r.holds (some .gt))
  | a :: as, b :: bs => if alike a b then relatedElements r as bs else related r a b

end

/-- The lesser of two values, the first if neither is. -/
def least (a b : Value) : Except OrderError Value := do return if ← related .less b a then b else a

/-- The greater of two values, the first if neither is. -/
def greatest (a b : Value) : Except OrderError Value := do return if ← related .greater b a then b else a

theorem alike_int (m n : Int) : alike (.int m) (.int n) = decide (m = n) := by
  simp [alike, number?, compareNumbers, Bool.beq_eq_decide_eq]

theorem related_int (r : Relation) (m n : Int) : related r (.int m) (.int n) = .ok (r.holds (some (compare m n))) := by
  simp [related, number?, compareNumbers]

theorem lessOrEqual_int (m n : Int) : related .lessOrEqual (.int m) (.int n) = .ok (decide (m ≤ n)) := by
  rw [related_int]
  rcases Int.lt_trichotomy m n with h | h | h
  · simp [Relation.holds, Int.compare_eq_lt.2 h, Int.le_of_lt h]
  · simp [Relation.holds, h]
  · simp [Relation.holds, Int.compare_eq_gt.2 h, Int.not_le.2 h]

theorem least_int (m n : Int) : least (.int m) (.int n) = .ok (.int (min m n)) := by
  rw [least, related_int]
  by_cases h : n < m
  · simp [Relation.holds, Int.compare_eq_lt.2 h, bind, Except.bind, pure, Except.pure]
    omega
  · have : compare n m ≠ .lt := fun e => h (Int.compare_eq_lt.1 e)
    simp [Relation.holds, this, bind, Except.bind, pure, Except.pure]
    omega

theorem greatest_int (m n : Int) : greatest (.int m) (.int n) = .ok (.int (max m n)) := by
  rw [greatest, related_int]
  by_cases h : m < n
  · simp [Relation.holds, Int.compare_eq_gt.2 h, bind, Except.bind, pure, Except.pure]
    omega
  · have : compare n m ≠ .gt := fun e => h (Int.compare_eq_gt.1 e)
    simp [Relation.holds, this, bind, Except.bind, pure, Except.pure]
    omega

end Value

end ContractLint
