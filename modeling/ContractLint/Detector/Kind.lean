import ContractLint.Model.Span
import ContractLint.Signature.Tables

/-! The detectors by kind, and what one of them finds in a function. -/

namespace ContractLint

inductive DetectorKind where
  | reentrancy
  | badRandomness
  | timeManipulation
  | numericalPrecision
  deriving DecidableEq, Repr

namespace DetectorKind

def all : List DetectorKind := [.reentrancy, .badRandomness, .timeManipulation, .numericalPrecision]

def text : DetectorKind → String
  | .reentrancy => "reentrancy"
  | .badRandomness => "bad-randomness"
  | .timeManipulation => "time-manipulation"
  | .numericalPrecision => "numerical-precision"

def ofText? (s : String) : Option DetectorKind := all.find? (·.text = s)

/-- The kind that a dynamic value names. -/
def ofValue (v : Value) : Except InvalidChoice DetectorKind :=
  match v.string?.bind ofText? with
  | some kind => .ok kind
  | none => .error ⟨v, "DetectorKind"⟩

theorem mem_all (k : DetectorKind) : k ∈ all := by cases k <;> decide

end DetectorKind

/-- The detectors that look for one reference to a table. -/
inductive FlagKind where
  | badRandomness
  | timeManipulation
  | numericalPrecision
  deriving DecidableEq, Repr

namespace FlagKind

def all : List FlagKind := [.badRandomness, .timeManipulation, .numericalPrecision]

def detector : FlagKind → DetectorKind
  | .badRandomness => .badRandomness
  | .timeManipulation => .timeManipulation
  | .numericalPrecision => .numericalPrecision

def table : FlagKind → TableName
  | .badRandomness => .randomnessSource
  | .timeManipulation => .clockSource
  | .numericalPrecision => .roundingFunction

/-- The flag of a detector that is one. -/
def ofDetector? (kind : DetectorKind) : Option FlagKind := all.find? (·.detector = kind)

end FlagKind

/-- The verdict of one detector on one function. -/
structure Finding where
  kind : DetectorKind
  triggered : Bool
  span : Span := .empty
  deriving DecidableEq, Repr

end ContractLint
