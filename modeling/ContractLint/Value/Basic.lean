import ContractLint.Assoc
import ContractLint.Number.Double
import ContractLint.Text.Basic

/-! Dynamic values, the content of a dump before it is understood. Objects keep the order of their fields. -/

namespace ContractLint

/-- A value of the interchange format. Integers have any size and differ from floating-point numbers. -/
inductive Value where
  | null
  | bool (b : Bool)
  | int (n : Int)
  | float (x : Double)
  | string (s : Text)
  | array (elements : List Value)
  | object (fields : List (Text × Value))
  deriving Repr, Inhabited

/-- The shape of a value, under the name that messages give it. -/
inductive Shape where
  | null
  | bool
  | int
  | float
  | string
  | array
  | object
  deriving DecidableEq, Repr

def Shape.name : Shape → String
  | .null => "NoneType"
  | .bool => "bool"
  | .int => "int"
  | .float => "float"
  | .string => "str"
  | .array => "list"
  | .object => "dict"

namespace Value

def shape : Value → Shape
  | .null => .null
  | .bool _ => .bool
  | .int _ => .int
  | .float _ => .float
  | .string _ => .string
  | .array _ => .array
  | .object _ => .object

/-- Nothing, zero and the empty text or collection count as false. -/
def truthy : Value → Bool
  | .null => false
  | .bool b => b
  | .int n => n != 0
  | .float x => !x.isZero
  | .string s => !s.isEmpty
  | .array elements => !elements.isEmpty
  | .object fields => !fields.isEmpty

def isNull : Value → Bool
  | .null => true
  | _ => false

/-- The value that a string of characters is. -/
def ofString (s : String) : Value := .string s

/-- The object with the given fields. -/
def record (fields : List (String × Value)) : Value := .object (fields.map fun f => (f.1, f.2))

/-- The string of characters that a value is. -/
def string? : Value → Option String
  | .string s => s.string?
  | _ => none

/-- The field of an object. -/
def get? : Value → String → Option Value
  | .object fields, key => Assoc.get? fields key
  | _, _ => none

/-- The field of an object, unless it is null. -/
def given? (v : Value) (key : String) : Option Value :=
  match v.get? key with
  | some .null => none
  | found => found

@[simp] theorem string?_ofString (s : String) : (ofString s).string? = some s := Text.string?_ofString s

theorem string?_eq_some_iff {v : Value} {s : String} : v.string? = some s ↔ v = ofString s := by
  cases v <;> simp [string?, ofString, Text.string?_eq_some_iff]

@[simp] theorem get?_record (fields : List (String × Value)) (key : String) :
    (record fields).get? key = Assoc.get? fields key := by
  induction fields with
  | nil => rfl
  | cons f fields ih =>
    have hkey : (f.1 : Text) = (key : Text) ↔ f.1 = key := ⟨Text.ofString_injective, fun h => h ▸ rfl⟩
    simp only [record, get?, List.map_cons, Assoc.get?, hkey] at ih ⊢
    rw [ih]

@[simp] theorem shape_record (fields : List (String × Value)) : (record fields).shape = .object := rfl

end Value

end ContractLint
