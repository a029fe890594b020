import ContractLint.File
import ContractLint.Json.Reader
import ContractLint.Value.Conversion
import ContractLint.Value.Display
import ContractLint.Value.Equality

/-! What can be wrong with a dump, and where. -/

namespace ContractLint.Dump

inductive Problem where
  | unreadable (path : String) (fault : FileFault)
  | invalidJson (path : String) (fault : Json.Fault)
  | notProgram
  | functionsNotList (shape : Shape)
  | missingName
  | notObject (what : Text) (shape : Shape)
  | missingField (what : Text) (key : String)
  | missingSpan
  /-- A span that is no object, or one with a field that is no integer. -/
  | badSpan (span : Value) (cause : Option ConversionError)
  | unknownProjection (kind : Value)
  | unknownOperand (kind : Value)
  | unknownOperator (op : Value)
  | unknownRvalue (kind : Value)
  | unknownStatement (kind : Value)
  | unknownGuard (kind : Value)
  | unknownTerminator (kind : Value)
  | badValue (cause : ConversionError)
  | duplicateBlock
  | danglingTarget (target : Int)
  deriving DecidableEq, Repr

def Problem.message : Problem → Text
  | .unreadable path fault => path ++ ": cannot read dump: " ++ fault.text
  | .invalidJson path fault => path ++ ": invalid JSON: " ++ fault.text
  | .notProgram => "dump must be a JSON object"
  | .functionsNotList shape => "'functions' must be a list, got " ++ shape.name
  | .missingName => "function entry is missing 'name'"
  | .notObject what shape => what ++ " must be an object, got " ++ shape.name
  | .missingField what key => what ++ " is missing '" ++ key ++ "'"
  | .missingSpan => "missing span"
  | .badSpan span _ => "bad span " ++ span.inspect
  | .unknownProjection kind => "unknown projection kind " ++ kind.inspect
  | .unknownOperand kind => "unknown operand kind " ++ kind.inspect
  | .unknownOperator op => "unknown binary operator " ++ op.inspect
  | .unknownRvalue kind => "unknown rvalue kind " ++ kind.inspect
  | .unknownStatement kind => "unknown statement kind " ++ kind.inspect
  | .unknownGuard kind => "unknown assert kind " ++ kind.inspect
  | .unknownTerminator kind => "unknown terminator kind " ++ kind.inspect
  | .badValue cause => "bad value: " ++ cause.message
  | .duplicateBlock => "duplicate basic block id"
  | .danglingTarget target => "terminator targets unknown block bb" ++ toString target

/-- The message with a function and a block in front. A function whose name counts as false is not mentioned, nor
is a block that is null. -/
def describe (function block : Value) (message : Text) : Text :=
  let function := if function.truthy then ["function '" ++ function.display ++ "'"] else []
  let block := if block.isNull then [] else ["bb" ++ block.display]
  match function ++ block with
  | [] => message
  | parts => Text.join ", " parts ++ ": " ++ message

/-- The function and the block that a problem is in, as far as they are known. The function goes by the name that
the loader was given, and is null if it was given none. -/
structure Location where
  function : Value := .null
  block : Option Int := none
  deriving DecidableEq, Repr

/-- The id of the block, or null. -/
def Location.blockValue (l : Location) : Value := (l.block.map .int).getD .null

def Location.describe (l : Location) (message : Text) : Text := Dump.describe l.function l.blockValue message

structure Error where
  problem : Problem
  location : Location := {}
  deriving DecidableEq, Repr

def Error.message (e : Error) : Text := e.location.describe e.problem.message

/-- Why a part of a dump could not be loaded: the dump is malformed, or a conversion failed where nothing
accounts for it. -/
inductive Failure where
  | malformed (error : Error)
  | conversion (error : ConversionError)
  deriving DecidableEq, Repr

/-- A failed conversion as a problem at a location. A number out of the range of the integers stays as it is. -/
def Failure.located (location : Location) : Failure → Failure
  | .conversion e => if e.isBadValue then .malformed ⟨.badValue e, location⟩ else .conversion e
  | f => f

end ContractLint.Dump
