import ContractLint.Model.Place
import ContractLint.Model.Span

/-! The instructions of a basic block: statements, and the terminator that ends it. Both carry the span of the
source they come from. -/

namespace ContractLint

/-- What an instruction reads. A constant has a value and, if it names an item, the path of that item; both are
kept as the dump gives them. -/
inductive Operand where
  | copy (place : Place)
  | move (place : Place)
  | constant (value path : Value)
  deriving DecidableEq, Repr, Inhabited

/-- The constant that says nothing. -/
def Operand.unit : Operand := .constant .null .null

inductive BinOp where
  | add | sub | mul | div | rem
  | shl | shr
  | bitAnd | bitOr | bitXor
  | eq | ne | lt | le | gt | ge
  deriving DecidableEq, Repr

namespace BinOp

def name : BinOp → String
  | .add => "Add"
  | .sub => "Sub"
  | .mul => "Mul"
  | .div => "Div"
  | .rem => "Rem"
  | .shl => "Shl"
  | .shr => "Shr"
  | .bitAnd => "BitAnd"
  | .bitOr => "BitOr"
  | .bitXor => "BitXor"
  | .eq => "Eq"
  | .ne => "Ne"
  | .lt => "Lt"
  | .le => "Le"
  | .gt => "Gt"
  | .ge => "Ge"

def all : List BinOp :=
  [.add, .sub, .mul, .div, .rem, .shl, .shr, .bitAnd, .bitOr, .bitXor, .eq, .ne, .lt, .le, .gt, .ge]

def ofName? (s : String) : Option BinOp := all.find? (·.name = s)

theorem ofName?_name (op : BinOp) : ofName? op.name = some op := by cases op <;> decide

end BinOp

/-- What an assignment computes. -/
inductive Rvalue where
  | use (operand : Operand)
  | binary (op : BinOp) (left right : Operand) (checked : Bool)
  | ref (place : Place) (mutable : Bool)
  | call (callee : Text) (args : List Operand)
  deriving DecidableEq, Repr, Inhabited

inductive StatementKind where
  | assign (destination : Place) (source : Rvalue)
  | storageLive (slot : Int)
  | storageDead (slot : Int)
  | nop
  deriving DecidableEq, Repr, Inhabited

structure Statement where
  kind : StatementKind
  span : Span := .empty
  deriving DecidableEq, Repr, Inhabited

/-- What an assertion protects against. -/
inductive Guard where
  | overflow (op : BinOp) (left right : Operand)
  | boundsCheck (length index : Operand)
  | divisionByZero (operand : Operand)
  deriving DecidableEq, Repr, Inhabited

inductive TerminatorKind where
  | goto (target : Int)
  | switchInt (discriminant : Operand) (targets : List (Int × Int)) (otherwise : Option Int)
  | call (callee : Text) (args : List Operand) (destination : Option Place) (target : Option Int)
  | assert (guard : Guard) (condition : Option Operand) (expected : Bool) (target : Option Int)
  | ret
  | unreachable
  deriving DecidableEq, Repr, Inhabited

structure Terminator where
  kind : TerminatorKind
  span : Span := .empty
  deriving DecidableEq, Repr, Inhabited

inductive Item where
  | statement (s : Statement)
  | terminator (t : Terminator)
  deriving DecidableEq, Repr, Inhabited

namespace Guard

/-- The guard of `left - right`. -/
def subtraction (left right : Operand) : Guard := .overflow .sub left right

def isSubtraction : Guard → Bool
  | .overflow op _ _ => op == .sub
  | _ => false

def operands : Guard → List Operand
  | .overflow _ left right => [left, right]
  | .boundsCheck length index => [length, index]
  | .divisionByZero operand => [operand]

end Guard

def Rvalue.operands : Rvalue → List Operand
  | .use operand => [operand]
  | .binary _ left right _ => [left, right]
  | .ref _ _ => []
  | .call _ args => args

def StatementKind.name : StatementKind → String
  | .assign _ _ => "Assign"
  | .storageLive _ => "StorageLive"
  | .storageDead _ => "StorageDead"
  | .nop => "Nop"

namespace TerminatorKind

def name : TerminatorKind → String
  | .goto _ => "Goto"
  | .switchInt _ _ _ => "SwitchInt"
  | .call _ _ _ _ => "Call"
  | .assert _ _ _ _ => "Assert"
  | .ret => "Return"
  | .unreachable => "Unreachable"

/-- The blocks that control may pass to. -/
def successors : TerminatorKind → List Int
  | .goto target => [target]
  | .switchInt _ targets otherwise => targets.map Prod.snd ++ otherwise.toList
  | .call _ _ _ target => target.toList
  | .assert _ _ _ target => target.toList
  | .ret => []
  | .unreachable => []

end TerminatorKind

namespace Item

def span : Item → Span
  | .statement s => s.span
  | .terminator t => t.span

def name : Item → String
  | .statement s => s.kind.name
  | .terminator t => t.kind.name

/-- The operands that an instruction reads. -/
def operands : Item → List Operand
  | .statement ⟨.assign _ source, _⟩ => source.operands
  | .statement _ => []
  | .terminator ⟨.call _ args _ _, _⟩ => args
  | .terminator ⟨.switchInt discriminant _ _, _⟩ => [discriminant]
  | .terminator ⟨.assert guard condition _ _, _⟩ => condition.toList ++ guard.operands
  | .terminator _ => []

/-- The function that an instruction calls. -/
def callee? : Item → Option Text
  | .statement ⟨.assign _ (.call callee _), _⟩ => some callee
  | .terminator ⟨.call callee _ _ _, _⟩ => some callee
  | _ => none

end Item

/-- The path of a constant that has one. -/
def Operand.path? : Operand → Option Value
  | .constant _ path => if path.truthy then some path else none
  | _ => none

/-- The item paths that an instruction refers to: the function that it calls, then the paths of its constants. -/
def Item.paths (item : Item) : List Value :=
  item.callee?.toList.map .string ++ item.operands.filterMap Operand.path?

end ContractLint
