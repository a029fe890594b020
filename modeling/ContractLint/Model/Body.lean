import ContractLint.Model.Graph

/-! Functions and programs. -/

namespace ContractLint

/-- A function: its name, where it stands and its control-flow graph. -/
structure Body extends Graph where
  name : Text
  span : Span := .empty
  deriving DecidableEq

def Body.describe (body : Body) : String := body.toGraph.describe (.string body.name)

/-- The functions of one source file. -/
structure Program where
  file : Text := {}
  functions : List Body := []
  deriving DecidableEq

/-- The first function with a given name. -/
def Program.function? (p : Program) (name : Value) : Option Body := p.functions.find? (.string ·.name = name)

end ContractLint
