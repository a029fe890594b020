import ContractLint.Dump.Error

/-! What is known while a dump is loaded: the file that spans default to, and the function and block at hand. -/

namespace ContractLint.Dump

structure Context where
  file : Value
  function : Value
  block : Option Int := none

/-- The result of a conversion, a failure not yet located. -/
def convert {α : Type} (result : Except ConversionError α) : Except Failure α := result.mapError .conversion

namespace Context

variable (c : Context)

def location : Location := ⟨c.function, c.block⟩

/-- The same function, in block `id`. -/
def inBlock (id : Int) : Context := { c with block := some id }

def fail {α : Type} (problem : Problem) : Except Failure α := .error (.malformed ⟨problem, c.location⟩)

/-- The field of a value that has to be an object and to have it. `what` names the value in messages. -/
def require (what : Text) (v : Value) (key : String) : Except Failure Value :=
  match v with
  | .object fields =>
    match Assoc.get? fields key with
    | some x => .ok x
    | none => c.fail (.missingField what key)
  | v => c.fail (.notObject what v.shape)

/-- A required field as an integer. -/
def requireInt (what : Text) (v : Value) (key : String) : Except Failure Int := do
  convert (← c.require what v key).toInt

end Context

/-- The parts of an optional field. -/
def listField (v : Value) (key : String) : Except Failure (List Value) :=
  convert ((v.get? key).getD (.array [])).parts

/-- An optional field as an integer; null means that there is none. -/
def intField? (v : Value) (key : String) : Except Failure (Option Int) :=
  (v.given? key).mapM fun x => convert x.toInt

/-- An optional field as a truth value. -/
def boolField (v : Value) (key : String) (default : Bool) : Bool :=
  ((v.get? key).map Value.truthy).getD default

end ContractLint.Dump
