import Mathlib.Data.List.Forall2
import ContractLint.Model.Body

/-! The format of dumps. The dump of a program is an object with the fields of its parts, which may come in any order
and among others. What is optional may be left out or be null, some fields have a default, and the blocks of a
function may come in any order, so a program has many dumps; it has at least the one that is written here. -/

namespace ContractLint

namespace Dump

/-! ### Fields -/

section Fields

variable {α : Type} (v : Value) (key : String)

/-- The field is there and holds a dump of `a`. -/
def Has (IsDump : Value → α → Prop) (a : α) : Prop := ∃ x, v.get? key = some x ∧ IsDump x a

/-- The field is left out or null where there is nothing. -/
def HasOption (IsDump : Value → α → Prop) : Option α → Prop
  | some a => Has v key IsDump a
  | none => v.given? key = none

/-- The field holds dumps of the elements of a list, and may be left out if there are none. -/
def HasList (IsDump : Value → α → Prop) (as : List α) : Prop :=
  v.get? key = none ∧ as = [] ∨ ∃ xs, v.get? key = some (.array xs) ∧ List.Forall₂ IsDump xs as

/-- The field holds `x`, and may be left out if that is its default. -/
def HasOr (default x : Value) : Prop := v.get? key = some x ∨ v.get? key = none ∧ x = default

end Fields

def HasKind (v : Value) (kind : String) : Prop := v.get? "kind" = some (.ofString kind)

def IsInt (v : Value) (n : Int) : Prop := v = .int n

def IsString (v : Value) (s : Text) : Prop := v = .string s

/-! ### Instructions -/

/-- A span says nothing of a file that it has in common with the program. -/
structure IsSpan (file v : Value) (s : Span) : Prop where
  object : v.shape = .object
  file : HasOr v "file" file s.file
  lo : HasOr v "lo" (.int 0) (.int s.lo)
  hi : HasOr v "hi" (.int 0) (.int s.hi)
  line : HasOr v "line" (.int 0) (.int s.line)
  column : HasOr v "column" (.int 0) (.int s.column)

def IsProjection (v : Value) : Projection → Prop
  | .deref => HasKind v "deref"
  | .field index => HasKind v "field" ∧ Has v "index" IsInt index
  | .index slot => HasKind v "index" ∧ Has v "local" IsInt slot
  | .constantIndex offset => HasKind v "constant_index" ∧ Has v "offset" IsInt offset

def IsPlace (v : Value) (p : Place) : Prop :=
  Has v "local" IsInt p.base ∧ HasList v "projection" IsProjection p.projection

def IsOperand (v : Value) : Operand → Prop
  | .copy place => HasKind v "copy" ∧ Has v "place" IsPlace place
  | .move place => HasKind v "move" ∧ Has v "place" IsPlace place
  | .constant value path => HasKind v "constant" ∧ HasOr v "value" .null value ∧ HasOr v "path" .null path

/-- Arguments may be null if there are none. -/
def HasArguments (v : Value) (args : List Operand) : Prop :=
  v.get? "args" = some .null ∧ args = [] ∨ HasList v "args" IsOperand args

def HasBinary (v : Value) (op : BinOp) (left right : Operand) : Prop :=
  Has v "op" IsString op.name ∧ Has v "left" IsOperand left ∧ Has v "right" IsOperand right

/-- A checked operation has a kind of its own, or is marked. -/
def IsRvalue (v : Value) : Rvalue → Prop
  | .use operand => HasKind v "Use" ∧ Has v "operand" IsOperand operand
  | .binary op left right checked => HasBinary v op left right ∧
      (HasKind v "BinaryOp" ∧ HasOr v "checked" (.bool false) (.bool checked) ∨
        HasKind v "CheckedBinaryOp" ∧ checked = true)
  | .ref place mutable =>
      HasKind v "Ref" ∧ Has v "place" IsPlace place ∧ HasOr v "mutable" (.bool false) (.bool mutable)
  | .call callee args => HasKind v "Call" ∧ Has v "callee" IsString callee ∧ HasArguments v args

/-- The fields of a statement beside its kind and span. -/
def HasStatement (v : Value) : StatementKind → Prop
  | .assign destination source => Has v "place" IsPlace destination ∧ Has v "rvalue" IsRvalue source
  | .storageLive slot => Has v "local" IsInt slot
  | .storageDead slot => Has v "local" IsInt slot
  | .nop => True

def IsStatement (file v : Value) (s : Statement) : Prop :=
  HasKind v s.kind.name ∧ Has v "span" (IsSpan file) s.span ∧ HasStatement v s.kind

def IsGuard (v : Value) : Guard → Prop
  | .overflow op left right => HasKind v "Overflow" ∧ HasBinary v op left right
  | .boundsCheck length index => HasKind v "BoundsCheck" ∧ Has v "len" IsOperand length ∧ Has v "index" IsOperand index
  | .divisionByZero operand => HasKind v "DivisionByZero" ∧ Has v "operand" IsOperand operand

/-- The value compared with, and the block that it leads to. -/
def IsSwitchCase (v : Value) (target : Int × Int) : Prop := v = .array [.int target.1, .int target.2]

/-- The fields of a terminator beside its kind and span. -/
def HasTerminator (v : Value) : TerminatorKind → Prop
  | .goto target => Has v "target" IsInt target
  | .switchInt discriminant targets otherwise =>
    Has v "discr" IsOperand discriminant ∧ HasList v "targets" IsSwitchCase targets ∧
      HasOption v "otherwise" IsInt otherwise
  | .call callee args destination target =>
    Has v "callee" IsString callee ∧ HasArguments v args ∧ HasOption v "destination" IsPlace destination ∧
      HasOption v "target" IsInt target
  | .assert guard condition expected target =>
    Has v "msg" IsGuard guard ∧ HasOption v "cond" IsOperand condition ∧
      HasOr v "expected" (.bool true) (.bool expected) ∧ HasOption v "target" IsInt target
  | .ret => True
  | .unreachable => True

def IsTerminator (file v : Value) (t : Terminator) : Prop :=
  HasKind v t.kind.name ∧ Has v "span" (IsSpan file) t.span ∧ HasTerminator v t.kind

/-! ### Functions and programs -/

def IsBlock (file v : Value) (b : Block) : Prop :=
  Has v "id" IsInt b.id ∧ HasList v "statements" (IsStatement file) b.statements ∧
    HasOption v "terminator" (IsTerminator file) b.terminator

/-- The blocks may come in any order, and an empty span may be left out or be null. -/
def IsFunction (file v : Value) (body : Body) : Prop :=
  Has v "name" IsString body.name ∧
    (v.given? "span" = none ∧ body.span = .empty ∨ Has v "span" (IsSpan file) body.span) ∧
    ∃ xs bs, v.get? "blocks" = some (.array xs) ∧ List.Forall₂ (IsBlock file) xs bs ∧ body.blocks.Perm bs

/-- The value is a dump of the program. -/
def IsProgram (v : Value) (p : Program) : Prop :=
  v.shape = .object ∧ HasOr v "file" (.ofString "") (.string p.file) ∧
    HasList v "functions" (IsFunction (.string p.file)) p.functions

end Dump

/-! ### Writing -/

def Span.toValue (s : Span) : Value :=
  .record [("file", s.file), ("lo", .int s.lo), ("hi", .int s.hi), ("line", .int s.line), ("column", .int s.column)]

def Projection.toValue : Projection → Value
  | .deref => .record [("kind", .ofString "deref")]
  | .field n => .record [("kind", .ofString "field"), ("index", .int n)]
  | .index n => .record [("kind", .ofString "index"), ("local", .int n)]
  | .constantIndex n => .record [("kind", .ofString "constant_index"), ("offset", .int n)]

def Place.toValue (p : Place) : Value :=
  .record [("local", .int p.base), ("projection", .array (p.projection.map Projection.toValue))]

def Operand.toValue : Operand → Value
  | .copy place => .record [("kind", .ofString "copy"), ("place", place.toValue)]
  | .move place => .record [("kind", .ofString "move"), ("place", place.toValue)]
  | .constant value path => .record [("kind", .ofString "constant"), ("value", value), ("path", path)]

/-- The array of the operands of a call. -/
def Operand.listValue (args : List Operand) : Value := .array (args.map Operand.toValue)

def Rvalue.toValue : Rvalue → Value
  | .use operand => .record [("kind", .ofString "Use"), ("operand", operand.toValue)]
  | .binary op left right checked =>
    .record [("kind", .ofString "BinaryOp"), ("op", .ofString op.name), ("left", left.toValue),
      ("right", right.toValue), ("checked", .bool checked)]
  | .ref place mutable =>
    .record [("kind", .ofString "Ref"), ("place", place.toValue), ("mutable", .bool mutable)]
  | .call callee args =>
    .record [("kind", .ofString "Call"), ("callee", .string callee), ("args", Operand.listValue args)]

def Guard.toValue : Guard → Value
  | .overflow op left right =>
    .record [("kind", .ofString "Overflow"), ("op", .ofString op.name), ("left", left.toValue),
      ("right", right.toValue)]
  | .boundsCheck length index =>
    .record [("kind", .ofString "BoundsCheck"), ("len", length.toValue), ("index", index.toValue)]
  | .divisionByZero operand => .record [("kind", .ofString "DivisionByZero"), ("operand", operand.toValue)]

/-- What is written for a part that may be missing. -/
def Value.ofOption {α : Type} (write : α → Value) : Option α → Value
  | some a => write a
  | none => .null

/-- What is written of a statement beside its kind and span. -/
def StatementKind.fields : StatementKind → List (String × Value)
  | .assign destination source => [("place", destination.toValue), ("rvalue", source.toValue)]
  | .storageLive slot => [("local", .int slot)]
  | .storageDead slot => [("local", .int slot)]
  | .nop => []

def Statement.toValue (s : Statement) : Value :=
  .record ([("kind", .ofString s.kind.name), ("span", s.span.toValue)] ++ s.kind.fields)

/-- What is written of a terminator beside its kind and span. -/
def TerminatorKind.fields : TerminatorKind → List (String × Value)
  | .goto target => [("target", .int target)]
  | .switchInt discriminant targets otherwise =>
    [("discr", discriminant.toValue), ("targets", .array (targets.map fun t => .array [.int t.1, .int t.2])),
      ("otherwise", .ofOption .int otherwise)]
  | .call callee args destination target =>
    [("callee", .string callee), ("args", Operand.listValue args),
      ("destination", .ofOption Place.toValue destination), ("target", .ofOption .int target)]
  | .assert guard condition expected target =>
    [("msg", guard.toValue), ("cond", .ofOption Operand.toValue condition), ("expected", .bool expected),
      ("target", .ofOption .int target)]
  | .ret => []
  | .unreachable => []

def Terminator.toValue (t : Terminator) : Value :=
  .record ([("kind", .ofString t.kind.name), ("span", t.span.toValue)] ++ t.kind.fields)

def Block.toValue (b : Block) : Value :=
  .record [("id", .int b.id), ("statements", .array (b.statements.map Statement.toValue)),
    ("terminator", .ofOption Terminator.toValue b.terminator)]

def Body.toValue (body : Body) : Value :=
  .record [("name", .string body.name), ("span", body.span.toValue),
    ("blocks", .array (body.blocks.map Block.toValue))]

def Program.toValue (p : Program) : Value :=
  .record [("file", .string p.file), ("functions", .array (p.functions.map Body.toValue))]

/-! ### What is written is a dump -/

namespace Dump

section Fields

variable {α : Type} {v : Value} {key : String} {IsDump : Value → α → Prop}

theorem hasOption_ofOption {write : α → Value} {o : Option α} (hv : v.get? key = some (.ofOption write o))
    (h : ∀ a, IsDump (write a) a) : HasOption v key IsDump o := by
  cases o with
  | none => simp [HasOption, Value.given?, hv, Value.ofOption]
  | some a => exact ⟨write a, hv, h a⟩

theorem forall₂_map {write : α → Value} (h : ∀ a, IsDump (write a) a) (as : List α) :
    List.Forall₂ IsDump (as.map write) as := by
  induction as with
  | nil => exact .nil
  | cons a as ih => exact .cons (h a) ih

theorem hasList_map {write : α → Value} {as : List α} (hv : v.get? key = some (.array (as.map write)))
    (h : ∀ a, IsDump (write a) a) : HasList v key IsDump as :=
  .inr ⟨_, hv, forall₂_map h as⟩

end Fields

theorem isSpan_toValue (file : Value) (s : Span) : IsSpan file s.toValue s := by
  constructor <;> simp [Span.toValue, HasOr, Assoc.get?]

theorem isProjection_toValue (p : Projection) : IsProjection p.toValue p := by
  cases p <;> simp [Projection.toValue, IsProjection, HasKind, Has, IsInt, Assoc.get?]

theorem isPlace_toValue (p : Place) : IsPlace p.toValue p := by
  refine ⟨?_, hasList_map ?_ isProjection_toValue⟩
  · simp [Place.toValue, Has, IsInt, Assoc.get?]
  · simp [Place.toValue, Assoc.get?]

theorem isOperand_toValue (o : Operand) : IsOperand o.toValue o := by
  cases o <;> simp [Operand.toValue, IsOperand, HasKind, Has, HasOr, Assoc.get?, isPlace_toValue]

theorem hasArguments_listValue {v : Value} {args : List Operand} (h : v.get? "args" = some (Operand.listValue args)) :
    HasArguments v args :=
  .inr (hasList_map h isOperand_toValue)

theorem isRvalue_toValue (r : Rvalue) : IsRvalue r.toValue r := by
  cases r with
  | use operand => simp [Rvalue.toValue, IsRvalue, HasKind, Has, Assoc.get?, isOperand_toValue]
  | binary op left right checked =>
    simp [Rvalue.toValue, IsRvalue, HasBinary, HasKind, Has, HasOr, IsString, Value.ofString, Assoc.get?,
      isOperand_toValue]
  | ref place mutable => simp [Rvalue.toValue, IsRvalue, HasKind, Has, HasOr, Assoc.get?, isPlace_toValue]
  | call callee args =>
    refine ⟨?_, ?_, hasArguments_listValue ?_⟩ <;> simp [Rvalue.toValue, HasKind, Has, IsString, Assoc.get?]

theorem isStatement_toValue (file : Value) (s : Statement) : IsStatement file s.toValue s := by
  refine ⟨?_, ⟨s.span.toValue, ?_, isSpan_toValue file s.span⟩, ?_⟩
  · simp [Statement.toValue, HasKind, Assoc.get?]
  · simp [Statement.toValue, Assoc.get?]
  · obtain ⟨kind, span⟩ := s
    cases kind <;>
      simp [Statement.toValue, StatementKind.fields, HasStatement, Has, IsInt, Assoc.get?, isPlace_toValue,
        isRvalue_toValue]

theorem isGuard_toValue (g : Guard) : IsGuard g.toValue g := by
  cases g <;>
    simp [Guard.toValue, IsGuard, HasBinary, HasKind, Has, IsString, Value.ofString, Assoc.get?, isOperand_toValue]

theorem hasTerminator_toValue (kind : TerminatorKind) (span : Span) :
    HasTerminator (Terminator.toValue ⟨kind, span⟩) kind := by
  have hint : ∀ n, IsInt (.int n) n := fun _ => rfl
  cases kind with
  | goto target => simp [Terminator.toValue, TerminatorKind.fields, HasTerminator, Has, IsInt, Assoc.get?]
  | switchInt discriminant targets otherwise =>
    refine ⟨⟨discriminant.toValue, ?_, isOperand_toValue discriminant⟩, hasList_map ?_ fun _ => rfl,
      hasOption_ofOption ?_ hint⟩ <;> simp [Terminator.toValue, TerminatorKind.fields, Assoc.get?]
  | call callee args destination target =>
    refine ⟨⟨.string callee, ?_, rfl⟩, hasArguments_listValue ?_, hasOption_ofOption ?_ isPlace_toValue,
      hasOption_ofOption ?_ hint⟩ <;> simp [Terminator.toValue, TerminatorKind.fields, Assoc.get?]
  | assert guard condition expected target =>
    refine ⟨⟨guard.toValue, ?_, isGuard_toValue guard⟩, hasOption_ofOption ?_ isOperand_toValue, .inl ?_,
      hasOption_ofOption ?_ hint⟩ <;> simp [Terminator.toValue, TerminatorKind.fields, Assoc.get?]
  | ret => trivial
  | unreachable => trivial

theorem isTerminator_toValue (file : Value) (t : Terminator) : IsTerminator file t.toValue t := by
  refine ⟨?_, ⟨t.span.toValue, ?_, isSpan_toValue file t.span⟩, hasTerminator_toValue t.kind t.span⟩
  · simp [Terminator.toValue, HasKind, Assoc.get?]
  · simp [Terminator.toValue, Assoc.get?]

theorem isBlock_toValue (file : Value) (b : Block) : IsBlock file b.toValue b := by
  refine ⟨?_, hasList_map ?_ (isStatement_toValue file), hasOption_ofOption ?_ (isTerminator_toValue file)⟩ <;>
    simp [Block.toValue, Has, IsInt, Assoc.get?]

theorem isFunction_toValue (file : Value) (body : Body) : IsFunction file body.toValue body := by
  refine ⟨?_, .inr ⟨body.span.toValue, ?_, isSpan_toValue file body.span⟩, body.blocks.map Block.toValue, body.blocks,
    ?_, forall₂_map (isBlock_toValue file) body.blocks, .refl _⟩ <;>
    simp [Body.toValue, Has, IsString, Assoc.get?]

/-- Every program has a dump. -/
theorem isProgram_toValue (p : Program) : IsProgram p.toValue p := by
  refine ⟨rfl, .inl ?_, hasList_map ?_ (isFunction_toValue _)⟩ <;> simp [Program.toValue, Assoc.get?]

end Dump

end ContractLint
