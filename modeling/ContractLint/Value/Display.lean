import ContractLint.Number.Shortest
import ContractLint.Text.Quoted
import ContractLint.Value.Basic

/-! How messages show values: with quotes around every text, or with a text that stands alone left as it is. -/

namespace ContractLint.Value

/-- `true` and `false` in capitalised form. -/
def boolText (b : Bool) : String := if b then "True" else "False"

mutual

/-- A value with its texts quoted. -/
def inspect : Value → String
  | .null => "None"
  | .bool b => boolText b
  | .int n => toString n
  | .float x => x.text
  | .string s => Text.quoted s
  | .array elements => "[" ++ ", ".intercalate (inspectElements elements) ++ "]"
  | .object fields => "\x7b" ++ ", ".intercalate (inspectFields fields) ++ "\x7d"

def inspectElements : List Value → List String
  | [] => []
  | v :: vs => inspect v :: inspectElements vs

def inspectFields : List (Text × Value) → List String
  | [] => []
  | (key, v) :: rest => (Text.quoted key ++ ": " ++ inspect v) :: inspectFields rest

end

/-- A text as it is, any other value as `inspect` shows it. -/
def display : Value → Text
  | .string s => s
  | v => v.inspect

@[simp] theorem display_string (t : Text) : (string t).display = t := rfl

end ContractLint.Value

namespace ContractLint

/-- A value that is none of the choices of a family. -/
structure InvalidChoice where
  value : Value
  family : String
  deriving Repr

def InvalidChoice.message (e : InvalidChoice) : String := e.value.inspect ++ " is not a valid " ++ e.family

end ContractLint
