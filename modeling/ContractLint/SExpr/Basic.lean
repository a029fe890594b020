import ContractLint.Number.Shortest
import ContractLint.Text.Quoted
import ContractLint.Value.Display

/-! Symbolic expressions, the notation of configuration files. -/

namespace ContractLint

inductive SExpr where
  | symbol (name : String)
  | string (s : String)
  | int (n : Int)
  | float (x : Double)
  | bool (b : Bool)
  | list (elements : List SExpr)
  | quoted (e : SExpr)
  | brackets (elements : List SExpr)
  deriving Repr, Inhabited

namespace SExpr

mutual

/-- An expression as messages show it. -/
def inspect : SExpr → String
  | .symbol name => "Symbol(" ++ Text.quoted name ++ ")"
  | .string s => Text.quoted s
  | .int n => toString n
  | .float x => x.text
  | .bool b => Value.boolText b
  | .list elements => "[" ++ ", ".intercalate (inspectAll elements) ++ "]"
  | .quoted e => "Quoted(" ++ inspect e ++ ")"
  | .brackets elements => "Brackets(I=[" ++ ", ".intercalate (inspectAll elements) ++ "])"

def inspectAll : List SExpr → List String
  | [] => []
  | e :: es => inspect e :: inspectAll es

end

mutual

/-- The expression with its symbols as strings, except where they are quoted or in square brackets. -/
def plain : SExpr → SExpr
  | .symbol name => .string name
  | .list elements => .list (plainAll elements)
  | e => e

def plainAll : List SExpr → List SExpr
  | [] => []
  | e :: es => plain e :: plainAll es

end

/-- A string as it is, any other expression as `inspect` shows it. -/
def display : SExpr → String
  | .string s => s
  | e => e.inspect

/-- The text of a symbol or a string. -/
def word? : SExpr → Option String
  | .symbol name => some name
  | .string s => some s
  | _ => none

end SExpr

end ContractLint
