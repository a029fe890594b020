/-! Storage locations: a local variable and a path of projections into it. Detectors tell places apart by
their variable alone. -/

namespace ContractLint

/-- One step into a location: through a pointer, to a field, or to an element whose index is a local or
a constant. -/
inductive Projection where
  | deref
  | field (index : Int)
  | index (slot : Int)
  | constantIndex (offset : Int)
  deriving DecidableEq, Repr

/-- A local variable with a path into it. -/
structure Place where
  base : Int
  projection : List Projection := []
  deriving DecidableEq, Repr

namespace Projection

/-- The text of a projection of the location with text `inner`. -/
def wrap (inner : String) : Projection → String
  | .deref => "(*" ++ inner ++ ")"
  | .field n => "(" ++ inner ++ "." ++ toString n ++ ")"
  | .index n => inner ++ "[_" ++ toString n ++ "]"
  | .constantIndex n => inner ++ "[" ++ toString n ++ "]"

end Projection

namespace Place

def project (p : Place) (step : Projection) : Place := { p with projection := p.projection ++ [step] }

def deref (p : Place) : Place := p.project .deref

def text (p : Place) : String := p.projection.foldl Projection.wrap ("_" ++ toString p.base)

/-- Whether two places are known and have the same variable. -/
def sameLocation : Option Place → Option Place → Bool
  | some p, some q => p.base == q.base
  | _, _ => false

theorem text_project (p : Place) (step : Projection) : (p.project step).text = step.wrap p.text := by
  simp [text, project]

end Place

end ContractLint
