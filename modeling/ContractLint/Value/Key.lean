import ContractLint.Value.Order

/-! Values as keys. A collection cannot be a key, and a number is the same key as any number that it is alike. -/

namespace ContractLint

/-- A collection in the place of a key. -/
structure NotKey where
  shape : Shape
  deriving DecidableEq, Repr

def NotKey.message (e : NotKey) : String := "unhashable type: '" ++ e.shape.name ++ "'"

namespace Value

def isKey : Value → Bool
  | .array _ => false
  | .object _ => false
  | _ => true

/-- The value itself, if it can be a key. -/
def key (v : Value) : Except NotKey Value := if v.isKey then .ok v else .error ⟨v.shape⟩

/-- The keys of a list, each as it first came. -/
def distinct (keys : List Value) : List Value :=
  keys.foldl (fun seen v => if seen.any (alike · v) then seen else seen ++ [v]) []

end Value

end ContractLint
