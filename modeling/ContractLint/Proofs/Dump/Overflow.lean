import ContractLint.Proofs.Dump.Blocks

/-! Infinite numbers in a dump. Every failed conversion is accounted for as a problem of the dump, but for one: an
infinite number where an integer is due. What is said here is which dumps the loader leaves for that reason. It reads
a dump in a fixed order, and it has to come to the number before it finds another fault. -/

namespace ContractLint

open Outcome

def Value.IsInfinite (v : Value) : Prop := ∃ negative, v = .float (.infinite negative)

namespace Value

theorem toInt_eq_infinite {v : Value} : v.toInt = .error .infinite ↔ v.IsInfinite := by
  cases v with
  | float x => cases x <;> simp [toInt, IsInfinite]
  | string s =>
    simp only [toInt, IsInfinite, mapError_eq_error, reduceCtorEq, exists_false, iff_false]
    rintro ⟨fault, -, h⟩
    cases fault <;> simp at h
  | _ => simp [toInt, IsInfinite]

@[simp] theorem parts_ne_infinite (v : Value) : v.parts ≠ .error .infinite := by
  unfold parts
  split <;> simp

@[simp] theorem toPair_ne_infinite (v : Value) : v.toPair ≠ .error .infinite := by
  unfold toPair
  split <;> simp

theorem toPair_eq_ok {v a b : Value} : v.toPair = .ok (a, b) ↔ v.parts? = some [a, b] := by
  unfold toPair
  split <;> simp_all

end Value

namespace Dump

/-- The failure that is not accounted for. -/
def overflow : Failure := .conversion .infinite

theorem convert_eq_overflow {α : Type} {r : Except ConversionError α} :
    convert r = .error overflow ↔ r = .error .infinite := by
  simp [convert_eq_error, overflow]

@[simp] theorem convert_toInt_eq_overflow {v : Value} : convert v.toInt = .error overflow ↔ v.IsInfinite := by
  rw [convert_eq_overflow, Value.toInt_eq_infinite]

/-- A field is there and holds an infinite number. -/
def InfiniteUnder (v : Value) (key : String) : Prop := ∃ x, v.get? key = some x ∧ x.IsInfinite

/-- The value loads. -/
def Loads {α : Type} (load : Value → Except Failure α) (v : Value) : Prop := ∃ a, load v = .ok a

/-- In a list whose elements are loaded in turn, an element with property `p` is reached. -/
def Reaches {α : Type} (load : Value → Except Failure α) (p : Value → Prop) (xs : List Value) : Prop :=
  ∃ before x rest, xs = before ++ x :: rest ∧ (∀ y ∈ before, Loads load y) ∧ p x

theorem mapM_eq_overflow {α : Type} {load : Value → Except Failure α} {p : Value → Prop} {xs : List Value}
    (h : ∀ x, load x = .error overflow ↔ p x) : xs.mapM load = .error overflow ↔ Reaches load p xs := by
  simp only [mapM_eq_error, h]
  rfl

theorem exists_mapM_loads {α : Type} {load : Value → Except Failure α} {xs : List Value} :
    (∃ ys, xs.mapM load = .ok ys) ↔ ∀ x ∈ xs, Loads load x := exists_mapM_ok

section Fields

variable {c : Context} {v : Value} {what : Text} {key : String}

@[simp] theorem fail_ne_overflow {α : Type} {problem : Problem} : (c.fail problem : Except Failure α) ≠ .error overflow := by
  simp [Context.fail, overflow]

@[simp] theorem require_ne_overflow : c.require what v key ≠ .error overflow := by
  intro h
  obtain ⟨problem, he⟩ := Context.require_eq_error h
  simp [overflow] at he

theorem require_bind_eq_overflow {α : Type} {next : Value → Except Failure α} :
    (c.require what v key >>= next) = .error overflow ↔ ∃ x, v.get? key = some x ∧ next x = .error overflow := by
  simp only [bind_eq_error, require_ne_overflow, false_or, Context.require_eq_ok]

/-- Reading goes by the kind of a value, which has to be there. -/
theorem kind_bind_eq_overflow {α : Type} {next : Value → Except Failure α} {p : Prop}
    (h : ∀ kind, v.get? "kind" = some kind → (next kind = .error overflow ↔ p)) (hnone : kind? v = none → ¬ p) :
    (c.require what v "kind" >>= next) = .error overflow ↔ p := by
  rw [require_bind_eq_overflow]
  cases hk : v.get? "kind" with
  | none => simp [hnone (by rw [kind?, hk, Option.bind_none])]
  | some kind => simp [h kind hk]

@[simp] theorem requireInt_eq_overflow : c.requireInt what v key = .error overflow ↔ InfiniteUnder v key := by
  simp only [Context.requireInt, require_bind_eq_overflow, convert_toInt_eq_overflow]
  rfl

@[simp] theorem listField_ne_overflow : listField v key ≠ .error overflow := by
  rw [listField, Ne, convert_eq_overflow]
  exact Value.parts_ne_infinite _

@[simp] theorem intField?_eq_overflow : intField? v key = .error overflow ↔ InfiniteUnder v key := by
  simp only [intField?, mapM_option_eq_error, convert_toInt_eq_overflow, given?_eq_some_iff, InfiniteUnder]
  constructor
  · rintro ⟨x, ⟨hx, -⟩, hi⟩
    exact ⟨x, hx, hi⟩
  · rintro ⟨x, hx, negative, rfl⟩
    exact ⟨_, ⟨hx, by simp⟩, negative, rfl⟩

end Fields

/-! ### Where an infinite number is reached -/

/-- The coordinate of a span, zero if it is left out, is an integer. -/
def CoordinateLoads (v : Value) (key : String) : Prop := ∃ n, ((v.get? key).getD (.int 0)).toInt = .ok n

def SpanOverflows (v : Value) : Prop :=
  InfiniteUnder v "lo" ∨ CoordinateLoads v "lo" ∧
  (InfiniteUnder v "hi" ∨ CoordinateLoads v "hi" ∧
  (InfiniteUnder v "line" ∨ CoordinateLoads v "line" ∧ InfiniteUnder v "column"))

def ProjectionOverflows (v : Value) : Prop :=
  match kind? v with
  | some "field" => InfiniteUnder v "index"
  | some "index" => InfiniteUnder v "local"
  | some "constant_index" => InfiniteUnder v "offset"
  | _ => False

/-- The projections of a place are read before its variable. -/
def PlaceOverflows (c : Context) (v : Value) : Prop :=
  ∃ base steps, v.get? "local" = some base ∧ listField v "projection" = .ok steps ∧
    (Reaches (projection c) ProjectionOverflows steps ∨
      (∀ step ∈ steps, Loads (projection c) step) ∧ base.IsInfinite)

def OperandOverflows (c : Context) (v : Value) : Prop :=
  match kind? v with
  | some "copy" => ∃ x, v.get? "place" = some x ∧ PlaceOverflows c x
  | some "move" => ∃ x, v.get? "place" = some x ∧ PlaceOverflows c x
  | _ => False

def ArgumentsOverflow (c : Context) (v : Value) : Prop :=
  ∃ args xs, v.get? "args" = some args ∧ args.truthy = true ∧ args.parts? = some xs ∧
    Reaches (operand c) (OperandOverflows c) xs

def BinaryOverflows (c : Context) (v : Value) : Prop :=
  ∃ op left, v.get? "op" = some op ∧ Loads (binOp c) op ∧ v.get? "left" = some left ∧
    (OperandOverflows c left ∨
      Loads (operand c) left ∧ ∃ right, v.get? "right" = some right ∧ OperandOverflows c right)

def RvalueOverflows (c : Context) (v : Value) : Prop :=
  match kind? v with
  | some "Use" => ∃ x, v.get? "operand" = some x ∧ OperandOverflows c x
  | some "BinaryOp" => BinaryOverflows c v
  | some "CheckedBinaryOp" => BinaryOverflows c v
  | some "Ref" => ∃ x, v.get? "place" = some x ∧ PlaceOverflows c x
  | some "Call" => (∃ callee, v.get? "callee" = some callee) ∧ ArgumentsOverflow c v
  | _ => False

def GuardOverflows (c : Context) (v : Value) : Prop :=
  match kind? v with
  | some "Overflow" => BinaryOverflows c v
  | some "BoundsCheck" =>
    ∃ length, v.get? "len" = some length ∧
      (OperandOverflows c length ∨
        Loads (operand c) length ∧ ∃ index, v.get? "index" = some index ∧ OperandOverflows c index)
  | some "DivisionByZero" => ∃ x, v.get? "operand" = some x ∧ OperandOverflows c x
  | _ => False

def SwitchCaseOverflows (v : Value) : Prop :=
  ∃ value block, v.parts? = some [value, block] ∧
    (value.IsInfinite ∨ (∃ n, value.toInt = .ok n) ∧ block.IsInfinite)

/-- The span of an instruction is read before the rest of it. -/
def HeadOverflows (v : Value) : Prop :=
  (∃ kind, v.get? "kind" = some kind) ∧ ∃ s, v.get? "span" = some s ∧ SpanOverflows s

def HeadLoads (c : Context) (v : Value) : Prop :=
  (∃ kind, v.get? "kind" = some kind) ∧ ∃ s, v.get? "span" = some s ∧ Loads (span c) s

def StatementOverflows (c : Context) (v : Value) : Prop :=
  HeadOverflows v ∨ HeadLoads c v ∧
    match kind? v with
    | some "Assign" =>
      ∃ x, v.get? "place" = some x ∧
        (PlaceOverflows c x ∨ Loads (place c) x ∧ ∃ y, v.get? "rvalue" = some y ∧ RvalueOverflows c y)
    | some "StorageLive" => InfiniteUnder v "local"
    | some "StorageDead" => InfiniteUnder v "local"
    | _ => False

def TerminatorOverflows (c : Context) (v : Value) : Prop :=
  HeadOverflows v ∨ HeadLoads c v ∧
    match kind? v with
    | some "Goto" => InfiniteUnder v "target"
    | some "SwitchInt" =>
      ∃ targets, listField v "targets" = .ok targets ∧
        (Reaches (fun x => convert (switchCase x)) SwitchCaseOverflows targets ∨
          (∀ x ∈ targets, Loads (fun x => convert (switchCase x)) x) ∧
            ∃ x, v.get? "discr" = some x ∧
              (OperandOverflows c x ∨ Loads (operand c) x ∧ InfiniteUnder v "otherwise"))
    | some "Call" =>
      (∃ callee, v.get? "callee" = some callee) ∧
        (ArgumentsOverflow c v ∨ Loads (arguments c) v ∧
          ((∃ x, v.given? "destination" = some x ∧ PlaceOverflows c x) ∨
            (∀ x, v.given? "destination" = some x → Loads (place c) x) ∧ InfiniteUnder v "target"))
    | some "Assert" =>
      ∃ message, v.get? "msg" = some message ∧
        (GuardOverflows c message ∨ Loads (guard c) message ∧
          ((∃ x, v.given? "cond" = some x ∧ OperandOverflows c x) ∨
            (∀ x, v.given? "cond" = some x → Loads (operand c) x) ∧ InfiniteUnder v "target"))
    | _ => False

/-! ### The loader fails there and nowhere else -/

section Instructions

variable {c : Context} {v : Value}

theorem coordinate_eq_infinite {key : String} :
    ((v.get? key).getD (.int 0)).toInt = .error .infinite ↔ InfiniteUnder v key := by
  rw [Value.toInt_eq_infinite, InfiniteUnder]
  cases v.get? key with
  | none => simp [Value.IsInfinite]
  | some x => simp

theorem spanFields_eq_infinite : spanFields c v = .error .infinite ↔ SpanOverflows v := by
  simp only [spanFields, bind_eq_error, pure_ne_error, and_false, exists_false, or_false, coordinate_eq_infinite,
    exists_and_right]
  rfl

theorem not_spanOverflows_of_get? (h : ∀ key, v.get? key = none) : ¬ SpanOverflows v := by
  simp [SpanOverflows, InfiniteUnder, h]

@[simp] theorem span_eq_overflow : span c v = .error overflow ↔ SpanOverflows v := by
  cases v with
  | object fields =>
    rw [← spanFields_eq_infinite (c := c), span]
    cases spanFields c (.object fields) with
    | ok s => simp
    | error e => cases e <;> simp [ConversionError.isBadValue, Context.fail, overflow]
  | _ => exact iff_of_false fail_ne_overflow (not_spanOverflows_of_get? fun _ => rfl)

@[simp] theorem projection_eq_overflow : projection c v = .error overflow ↔ ProjectionOverflows v := by
  refine kind_bind_eq_overflow (fun kind hk => ?_) fun hk => by simp [ProjectionOverflows, hk]
  rw [ProjectionOverflows, kind?_of_get? hk]
  split <;> simp [*, -bind_pure_comp, bind_eq_error]

@[simp] theorem place_eq_overflow : place c v = .error overflow ↔ PlaceOverflows c v := by
  simp [place, -bind_pure_comp, bind_eq_error, mapM_eq_overflow fun _ => projection_eq_overflow, exists_mapM_loads,
    PlaceOverflows]

@[simp] theorem operand_eq_overflow : operand c v = .error overflow ↔ OperandOverflows c v := by
  refine kind_bind_eq_overflow (fun kind hk => ?_) fun hk => by simp [OperandOverflows, hk]
  rw [OperandOverflows, kind?_of_get? hk]
  split <;> simp [*, -bind_pure_comp, bind_eq_error]

@[simp] theorem arguments_eq_overflow : arguments c v = .error overflow ↔ ArgumentsOverflow c v := by
  unfold arguments ArgumentsOverflow
  cases v.get? "args" with
  | none => simp
  | some args =>
    by_cases ht : args.truthy = true
    · simp [ht, bind_eq_error, convert_eq_overflow, convert_eq_ok, Value.parts_eq_ok,
        mapM_eq_overflow fun _ => operand_eq_overflow]
    · simp [ht]

@[simp] theorem binOp_ne_overflow : binOp c v ≠ .error overflow := by
  unfold binOp
  split
  · simp
  · exact fail_ne_overflow

@[simp] theorem binary_eq_overflow {kind : Text} : binary c kind v = .error overflow ↔ BinaryOverflows c v := by
  simp [binary, -bind_pure_comp, bind_eq_error, BinaryOverflows, Loads]

@[simp] theorem rvalue_eq_overflow : rvalue c v = .error overflow ↔ RvalueOverflows c v := by
  refine kind_bind_eq_overflow (fun kind hk => ?_) fun hk => by simp [RvalueOverflows, hk]
  rw [RvalueOverflows, kind?_of_get? hk]
  split <;> simp [*, -bind_pure_comp, bind_eq_error]

@[simp] theorem guard_eq_overflow : guard c v = .error overflow ↔ GuardOverflows c v := by
  refine kind_bind_eq_overflow (fun kind hk => ?_) fun hk => by simp [GuardOverflows, hk]
  rw [GuardOverflows, kind?_of_get? hk]
  split <;> simp [*, -bind_pure_comp, bind_eq_error, Loads]

@[simp] theorem switchCase_eq_overflow : convert (switchCase v) = .error overflow ↔ SwitchCaseOverflows v := by
  simp [convert_eq_overflow, switchCase, -bind_pure_comp, bind_eq_error, Value.toPair_eq_ok, Value.toInt_eq_infinite,
    SwitchCaseOverflows]

@[simp] theorem itemHead_eq_overflow {what : Text} : itemHead c what v = .error overflow ↔ HeadOverflows v := by
  simp [itemHead, -bind_pure_comp, bind_eq_error, HeadOverflows]

/-- What follows the head of an instruction is reached if the head loads. -/
theorem itemHead_bind_eq_overflow {α : Type} {what : Text} {next : Value × Span → Except Failure α} {p : Prop}
    (h : ∀ kind s, v.get? "kind" = some kind → (next (kind, s) = .error overflow ↔ p)) :
    (itemHead c what v >>= next) = .error overflow ↔ HeadOverflows v ∨ HeadLoads c v ∧ p := by
  rw [bind_eq_error, itemHead_eq_overflow]
  refine or_congr_right ?_
  simp only [itemHead, bind_eq_ok, Context.require_eq_ok, pure_eq_ok, Prod.exists, Prod.mk.injEq]
  constructor
  · rintro ⟨kind, s, ⟨_, hk, x, hx, _, hs, rfl, rfl⟩, hnext⟩
    exact ⟨⟨⟨_, hk⟩, x, hx, _, hs⟩, (h _ _ hk).1 hnext⟩
  · rintro ⟨⟨⟨kind, hk⟩, x, hx, s, hs⟩, hp⟩
    exact ⟨kind, s, ⟨kind, hk, x, hx, s, hs, rfl, rfl⟩, (h kind s hk).2 hp⟩

@[simp] theorem statement_eq_overflow : statement c v = .error overflow ↔ StatementOverflows c v := by
  refine itemHead_bind_eq_overflow fun kind s hk => ?_
  rw [kind?_of_get? hk]
  dsimp only
  split <;> simp [*, -bind_pure_comp, bind_eq_error, Loads]

@[simp] theorem terminator_eq_overflow : terminator c v = .error overflow ↔ TerminatorOverflows c v := by
  refine itemHead_bind_eq_overflow fun kind s hk => ?_
  rw [kind?_of_get? hk]
  dsimp only
  -- a switch reads its cases, and the optional parts of a call or an assertion count as lists of one or none
  split <;> simp [*, -bind_pure_comp, bind_eq_error, mapM_eq_overflow fun _ => switchCase_eq_overflow,
    mapM_option_eq_error, exists_mapM_loads, exists_mapM_option_ok, Loads]

end Instructions

/-! ### Functions and programs -/

def BlockOverflows (c : Context) (v : Value) : Prop :=
  InfiniteUnder v "id" ∨ ∃ id statements, blockId c v = .ok id ∧ listField v "statements" = .ok statements ∧
    (Reaches (statement (c.inBlock id)) (StatementOverflows (c.inBlock id)) statements ∨
      (∀ x ∈ statements, Loads (statement (c.inBlock id)) x) ∧
        ∃ x, v.given? "terminator" = some x ∧ TerminatorOverflows (c.inBlock id) x)

/-- The blocks in front of the one with the number load and have distinct ids. -/
def GraphOverflows (c : Context) (v : Value) : Prop :=
  ∃ before x rest bs, v.parts? = some (before ++ x :: rest) ∧ before.mapM (block c) = .ok bs ∧
    (bs.map Block.id).Nodup ∧ BlockOverflows c x

def FunctionOverflows (file v : Value) : Prop :=
  ∃ name, v.get? "name" = some name ∧
    ((∃ s, v.given? "span" = some s ∧ SpanOverflows s) ∨
      Loads (functionSpan ⟨file, .string name.display, none⟩) v ∧
        ∃ blocks, v.get? "blocks" = some blocks ∧ GraphOverflows ⟨file, .string name.display, none⟩ blocks)

/-- The file that the spans of a dump default to. -/
def defaultFile (v : Value) : Value := .string (((v.get? "file").map Value.display).getD {})

/-- The loader comes to an infinite number where an integer is due, and all that it reads before loads. -/
def ProgramOverflows (v : Value) : Prop :=
  ∃ xs, v.get? "functions" = some (.array xs) ∧
    Reaches (function (defaultFile v)) (FunctionOverflows (defaultFile v)) xs

section Functions

variable {c : Context} {v : Value}

@[simp] theorem block_eq_overflow : block c v = .error overflow ↔ BlockOverflows c v := by
  simp [block, blockId, -bind_pure_comp, bind_eq_error, mapM_eq_overflow fun _ => statement_eq_overflow,
    mapM_option_eq_error, exists_mapM_loads, BlockOverflows]

theorem located_eq_overflow {f : Failure} {location : Location} : f.located location = overflow ↔ f = overflow := by
  cases f with
  | malformed e => rfl
  | conversion e => cases e <;> simp [Failure.located, ConversionError.isBadValue, overflow]

@[simp] theorem mapError_located_eq_overflow {α : Type} {r : Except Failure α} {location : Location} :
    r.mapError (Failure.located location) = .error overflow ↔ r = .error overflow := by
  simp only [mapError_eq_error, located_eq_overflow, exists_eq_right]

@[simp] theorem addBlock_ne_overflow {g : Graph} {b : Block} : addBlock c g b ≠ .error overflow := by
  unfold addBlock
  split
  · simp
  · exact fail_ne_overflow

@[simp] theorem nextBlock_eq_overflow {g : Graph} : nextBlock c g v = .error overflow ↔ BlockOverflows c v := by
  simp [nextBlock, bind_eq_error]

@[simp] theorem validate_ne_overflow {g : Graph} : validate c g ≠ .error overflow := by
  unfold validate
  split
  · simp
  · exact fail_ne_overflow

@[simp] theorem graph_eq_overflow : graph c v = .error overflow ↔ GraphOverflows c v := by
  simp only [graph, bind_eq_error, mapError_located_eq_overflow, convert_eq_overflow, Value.parts_ne_infinite, false_or,
    mapError_eq_ok, convert_eq_ok, Value.parts_eq_ok, foldlM_eq_error, nextBlock_eq_overflow, validate_ne_overflow,
    pure_ne_error, and_false, exists_false, or_false, GraphOverflows]
  constructor
  · rintro ⟨_, hv, before, x, rest, g, rfl, hg, hx⟩
    obtain ⟨bs, hbs, hnodup, -⟩ := exists_foldlM_nextBlock.1 ⟨g, hg⟩
    exact ⟨before, x, rest, bs, hv, hbs, hnodup, hx⟩
  · rintro ⟨before, x, rest, bs, hv, hbs, hnodup, hx⟩
    obtain ⟨g, hg⟩ := (exists_foldlM_nextBlock (g := {})).2 ⟨bs, hbs, hnodup, by simp⟩
    exact ⟨_, hv, before, x, rest, g, rfl, hg, hx⟩

@[simp] theorem functionSpan_eq_overflow :
    functionSpan c v = .error overflow ↔ ∃ s, v.given? "span" = some s ∧ SpanOverflows s := by
  unfold functionSpan
  cases v.given? "span" with
  | none => simp
  | some s => simp [span_eq_overflow]

@[simp] theorem function_eq_overflow {file : Value} : function file v = .error overflow ↔ FunctionOverflows file v := by
  unfold function FunctionOverflows
  cases v.get? "name" with
  | none => simp [overflow]
  | some name =>
    simp only [bind_eq_error, functionSpan_eq_overflow, require_ne_overflow, Context.require_eq_ok, false_or,
      graph_eq_overflow, pure_ne_error, and_false, exists_false, or_false, exists_and_right, Option.some.injEq,
      exists_eq_left']
    rfl

theorem program_eq_overflow : program v = .error overflow ↔ ProgramOverflows v := by
  unfold program ProgramOverflows
  split
  · next fields =>
    cases hf : (Value.object fields).get? "functions" with
    | none => simp
    | some functions =>
      rw [Option.getD_some]
      split
      · next xs =>
        simp only [bind_eq_error, mapM_eq_overflow fun _ => function_eq_overflow, pure_ne_error, and_false,
          exists_false, or_false, Option.some.injEq, Value.array.injEq, exists_eq_left']
        rfl
      · next h =>
        refine iff_of_false (by simp [overflow]) ?_
        rintro ⟨xs, hx, -⟩
        exact h xs (Option.some.inj hx)
  · next h =>
    cases v with
    | object fields => exact absurd rfl (h fields)
    | _ => simp [overflow, Value.get?]

/-! ### No other failure is left without a location -/

/-- The failures that the loading of a whole dump may end in. -/
def Final (f : Failure) : Prop := f = overflow ∨ ∃ e, f = .malformed e

theorem final_located (f : Failure) (location : Location) :
    Final (f.located location) := by
  cases f with
  | malformed e => exact .inr ⟨e, rfl⟩
  | conversion e => cases e <;> simp [Final, Failure.located, ConversionError.isBadValue, overflow]

theorem final_of_mapError_located {α : Type} {r : Except Failure α} {location : Location} {f : Failure}
    (h : r.mapError (Failure.located location) = .error f) : Final f := by
  obtain ⟨f', _, rfl⟩ := mapError_eq_error.1 h
  exact final_located f' location

theorem final_of_fail {α : Type} {problem : Problem} {f : Failure} (h : (c.fail problem : Except Failure α) = .error f) :
    Final f := .inr ⟨_, (Except.error.inj h).symm⟩

theorem final_of_span {f : Failure} (h : span c v = .error f) : Final f := by
  unfold span at h
  split at h
  · exact final_of_fail h
  · split at h
    · simp at h
    · next e _ =>
      split_ifs at h with he
      · exact final_of_fail h
      · -- an infinite number is the only bad value that does not count as one
        obtain rfl := Except.error.inj h
        cases e <;> simp [ConversionError.isBadValue, Final, overflow] at he ⊢
  · exact final_of_fail h

theorem final_of_functionSpan {f : Failure} (h : functionSpan c v = .error f) : Final f := by
  unfold functionSpan at h
  split at h
  · exact final_of_span h
  · simp at h

theorem final_of_nextBlock {g : Graph} {f : Failure} (h : nextBlock c g v = .error f) :
    Final f := by
  obtain h | ⟨b, _, h⟩ := bind_eq_error.1 h
  · exact final_of_mapError_located h
  · unfold addBlock at h
    split at h
    · simp at h
    · exact final_of_fail h

theorem final_of_graph {f : Failure} (h : graph c v = .error f) : Final f := by
  obtain h | ⟨xs, _, h⟩ := bind_eq_error.1 h
  · exact final_of_mapError_located h
  obtain h | ⟨g, _, h⟩ := bind_eq_error.1 h
  · obtain ⟨_, x, _, g, _, _, hx⟩ := foldlM_eq_error.1 h
    exact final_of_nextBlock hx
  obtain h | ⟨_, _, h⟩ := bind_eq_error.1 h
  · unfold validate at h
    split at h
    · simp at h
    · exact final_of_fail h
  · exact absurd h pure_ne_error

theorem final_of_function {file : Value} {f : Failure} (h : function file v = .error f) :
    Final f := by
  unfold function at h
  split at h
  · exact .inr ⟨_, (Except.error.inj h).symm⟩
  obtain h | ⟨s, _, h⟩ := bind_eq_error.1 h
  · exact final_of_functionSpan h
  obtain h | ⟨blocks, _, h⟩ := bind_eq_error.1 h
  · obtain ⟨problem, hf⟩ := Context.require_eq_error h
    exact .inr ⟨_, hf⟩
  obtain h | ⟨g, _, h⟩ := bind_eq_error.1 h
  · exact final_of_graph h
  · exact absurd h pure_ne_error

theorem final_of_program {f : Failure} (h : program v = .error f) : Final f := by
  unfold program at h
  split at h
  · split at h
    · obtain h | ⟨_, _, h⟩ := bind_eq_error.1 h
      · obtain ⟨_, x, _, _, _, hx⟩ := mapM_eq_error.1 h
        exact final_of_function hx
      · exact absurd h pure_ne_error
    · exact .inr ⟨_, (Except.error.inj h).symm⟩
  · exact .inr ⟨_, (Except.error.inj h).symm⟩

end Functions

/-- A dump loads or is reported as malformed, unless the loader comes to an infinite number where an integer is due.
The failure to convert that number is then the only one that is not reported. -/
theorem program_loads_or_malformed_iff (v : Value) :
    (((∃ p, program v = .ok p) ∨ ∃ e, program v = .error (.malformed e)) ↔ ¬ ProgramOverflows v) ∧
      (ProgramOverflows v ↔ program v = .error (.conversion .infinite)) := by
  have hover : program v = .error (.conversion .infinite) ↔ ProgramOverflows v := program_eq_overflow
  refine ⟨?_, hover.symm⟩
  rw [← hover]
  cases hp : program v with
  | ok p => simp
  | error f =>
    obtain rfl | ⟨e, rfl⟩ := final_of_program hp
    · simp [overflow]
    · simp

/-- The dump of one function whose only block has an infinite id. -/
def infiniteId : Value :=
  .record [("functions", .array [.record [("name", .ofString "f"),
    ("blocks", .array [.record [("id", .float (.infinite false))]])]])]

/-- A block under an infinite id makes the loader fail without a report. -/
theorem program_infinite_id :
    ¬ ((∃ p, program infiniteId = .ok p) ∨ ∃ e, program infiniteId = .error (.malformed e)) := by
  have h : program infiniteId = .error (.conversion .infinite) := rfl
  simp [h]

end Dump

end ContractLint
