import ContractLint.Dump.Context
import ContractLint.Model.Item

/-! Loading of instructions. Fields are looked at in a fixed order, so of several faults the first in that order
is reported. -/

namespace ContractLint.Dump

/-- Loads a span that is an object. The file is taken as it is. -/
def spanFields (c : Context) (v : Value) : Except ConversionError Span := do
  let coordinate (key : String) := ((v.get? key).getD (.int 0)).toInt
  return {
    file := (v.get? "file").getD c.file
    lo := ← coordinate "lo"
    hi := ← coordinate "hi"
    line := ← coordinate "line"
    column := ← coordinate "column" }

def span (c : Context) (v : Value) : Except Failure Span :=
  match v with
  | .null => c.fail .missingSpan
  | .object _ =>
    match spanFields c v with
    | .ok s => .ok s
    | .error e => if e.isBadValue then c.fail (.badSpan v (some e)) else .error (.conversion e)
  | _ => c.fail (.badSpan v none)

def projection (c : Context) (v : Value) : Except Failure Projection := do
  let kind ← c.require "projection" v "kind"
  match kind.string? with
  | some "deref" => return .deref
  | some "field" => return .field (← c.requireInt "field" v "index")
  | some "index" => return .index (← c.requireInt "index" v "local")
  | some "constant_index" => return .constantIndex (← c.requireInt "index" v "offset")
  | _ => c.fail (.unknownProjection kind)

def place (c : Context) (v : Value) : Except Failure Place := do
  let base ← c.require "place" v "local"
  let steps ← (← listField v "projection").mapM (projection c)
  return ⟨← convert base.toInt, steps⟩

def operand (c : Context) (v : Value) : Except Failure Operand := do
  let kind ← c.require "operand" v "kind"
  match kind.string? with
  | some "copy" => return .copy (← place c (← c.require "operand" v "place"))
  | some "move" => return .move (← place c (← c.require "operand" v "place"))
  | some "constant" => return .constant ((v.get? "value").getD .null) ((v.get? "path").getD .null)
  | _ => c.fail (.unknownOperand kind)

/-- The arguments of a call, which may be left out or be false in any way. -/
def arguments (c : Context) (v : Value) : Except Failure (List Operand) := do
  match v.get? "args" with
  | none => return []
  | some args => if args.truthy then (← convert args.parts).mapM (operand c) else return []

def binOp (c : Context) (v : Value) : Except Failure BinOp :=
  match v.string?.bind BinOp.ofName? with
  | some op => .ok op
  | none => c.fail (.unknownOperator v)

/-- The operator and operands of a binary operation of the given kind. -/
def binary (c : Context) (kind : Text) (v : Value) : Except Failure (BinOp × Operand × Operand) := do
  let op ← binOp c (← c.require kind v "op")
  let left ← operand c (← c.require kind v "left")
  let right ← operand c (← c.require kind v "right")
  return (op, left, right)

def rvalue (c : Context) (v : Value) : Except Failure Rvalue := do
  let kind ← c.require "rvalue" v "kind"
  match kind.string? with
  | some "Use" => return .use (← operand c (← c.require "Use" v "operand"))
  | some "BinaryOp" =>
    let (op, left, right) ← binary c "BinaryOp" v
    return .binary op left right (boolField v "checked" false)
  | some "CheckedBinaryOp" =>
    let (op, left, right) ← binary c "CheckedBinaryOp" v
    return .binary op left right true
  | some "Ref" => return .ref (← place c (← c.require "Ref" v "place")) (boolField v "mutable" false)
  | some "Call" =>
    let callee ← c.require "Call" v "callee"
    return .call callee.display (← arguments c v)
  | _ => c.fail (.unknownRvalue kind)

/-- The kind and the span that every instruction begins with. -/
def itemHead (c : Context) (what : Text) (v : Value) : Except Failure (Value × Span) := do
  let kind ← c.require what v "kind"
  return (kind, ← span c (← c.require kind.display v "span"))

def statement (c : Context) (v : Value) : Except Failure Statement := do
  let (kind, span) ← itemHead c "statement" v
  match kind.string? with
  | some "Assign" =>
    let destination ← place c (← c.require "Assign" v "place")
    let source ← rvalue c (← c.require "Assign" v "rvalue")
    return ⟨.assign destination source, span⟩
  | some "StorageLive" => return ⟨.storageLive (← c.requireInt "StorageLive" v "local"), span⟩
  | some "StorageDead" => return ⟨.storageDead (← c.requireInt "StorageDead" v "local"), span⟩
  | some "Nop" => return ⟨.nop, span⟩
  | _ => c.fail (.unknownStatement kind)

def guard (c : Context) (v : Value) : Except Failure Guard := do
  let kind ← c.require "assert message" v "kind"
  match kind.string? with
  | some "Overflow" =>
    let (op, left, right) ← binary c "Overflow" v
    return .overflow op left right
  | some "BoundsCheck" =>
    let length ← operand c (← c.require "BoundsCheck" v "len")
    let index ← operand c (← c.require "BoundsCheck" v "index")
    return .boundsCheck length index
  | some "DivisionByZero" => return .divisionByZero (← operand c (← c.require "DivisionByZero" v "operand"))
  | _ => c.fail (.unknownGuard kind)

/-- A case of a switch: a pair of the value compared with and the block that it leads to. -/
def switchCase (v : Value) : Except ConversionError (Int × Int) := do
  let (value, block) ← v.toPair
  return (← value.toInt, ← block.toInt)

def terminator (c : Context) (v : Value) : Except Failure Terminator := do
  let (kind, span) ← itemHead c "terminator" v
  match kind.string? with
  | some "Goto" => return ⟨.goto (← c.requireInt "Goto" v "target"), span⟩
  | some "SwitchInt" =>
    let targets ← (← listField v "targets").mapM fun target => convert (switchCase target)
    let discriminant ← operand c (← c.require "SwitchInt" v "discr")
    return ⟨.switchInt discriminant targets (← intField? v "otherwise"), span⟩
  | some "Call" =>
    let callee ← c.require "Call" v "callee"
    let args ← arguments c v
    let destination ← (v.given? "destination").mapM (place c)
    return ⟨.call callee.display args destination (← intField? v "target"), span⟩
  | some "Assert" =>
    let protects ← guard c (← c.require "Assert" v "msg")
    let condition ← (v.given? "cond").mapM (operand c)
    return ⟨.assert protects condition (boolField v "expected" true) (← intField? v "target"), span⟩
  | some "Return" => return ⟨.ret, span⟩
  | some "Unreachable" => return ⟨.unreachable, span⟩
  | _ => c.fail (.unknownTerminator kind)

end ContractLint.Dump
