import ContractLint.Assoc
import ContractLint.Detector.Kind
import ContractLint.Model.Item

/-! Reentrancy: a balance is read into a place, value is transferred out, and the place is written in a block after
the last transfer. Block ids stand for the order of the program, and observations may come in any order. -/

namespace ContractLint

/-- A fact seen while a function is visited. `σ` is the type of the spans of calls. -/
inductive Observation (σ : Type) where
  | item (block : Int) (item : Item)
  | call (block : Int) (callee : Value) (destination : Option Place) (span : σ)
  | other (value : Value)
  deriving DecidableEq, Repr

/-- What has been observed of a function. -/
structure Reentrancy (σ : Type) where
  /-- The instructions of each block. -/
  blocks : List (Int × List Item) := []
  /-- The callee of the last transfer in each block that has one. -/
  transfers : List (Int × Value) := []
  /-- The place that the first balance read stores into, and the span of that read. -/
  balance : Option (Place × σ) := none
  deriving DecidableEq, Repr

namespace Reentrancy

variable {σ : Type}

/-- The place of the balance. -/
def tracked (r : Reentrancy σ) : Option Place := r.balance.map Prod.fst

/-- The span of the balance read, or `empty` if there is none. -/
def balanceSpan (r : Reentrancy σ) (empty : σ) : σ := (r.balance.map Prod.snd).getD empty

def recordItem (r : Reentrancy σ) (block : Int) (item : Item) : Reentrancy σ :=
  { r with blocks := Assoc.push r.blocks block item }

/-- Records a value transfer. -/
def recordTransfer (r : Reentrancy σ) (block : Int) (callee : Value) : Reentrancy σ :=
  { r with transfers := Assoc.put r.transfers block callee }

/-- Looks at a call as a balance read. That is done only while no balance is tracked, and only if the call stores
its result. -/
def noteRead (tables : Tables) (r : Reentrancy σ) (callee : Value) (destination : Option Place) (span : σ) :
    Except PathError (Reentrancy σ) :=
  match r.balance, destination with
  | none, some place =>
    ((tables.table .balanceRead).matchesValue callee).map fun hit =>
      if hit then { r with balance := some (place, span) } else r
  | _, _ => .ok r

/-- Looks at a call as a value transfer. -/
def noteTransfer (tables : Tables) (r : Reentrancy σ) (block : Int) (callee : Value) :
    Except PathError (Reentrancy σ) :=
  ((tables.table .valueTransfer).matchesValue callee).map fun hit => if hit then r.recordTransfer block callee else r

/-- Looks at a call as a balance read and then as a value transfer. The state is the one in which it ends, be it
by an error between the two. -/
def recordCall (tables : Tables) (r : Reentrancy σ) (block : Int) (callee : Value) (destination : Option Place)
    (span : σ) : Reentrancy σ × Option PathError :=
  match r.noteRead tables callee destination span with
  | .error e => (r, some e)
  | .ok noted =>
    match noted.noteTransfer tables block callee with
    | .error e => (noted, some e)
    | .ok r => (r, none)

/-- The state that an observation leaves, and the error that it ends in, if it does. -/
def attempt (tables : Tables) (r : Reentrancy σ) : Observation σ → Reentrancy σ × Option PathError
  | .item block item => (r.recordItem block item, none)
  | .call block callee destination span => r.recordCall tables block callee destination span
  | .other _ => (r, none)

/-- Records an observation. A call is refused if its callee is no path. -/
def record (tables : Tables) (r : Reentrancy σ) (o : Observation σ) : Except PathError (Reentrancy σ) :=
  match r.attempt tables o with
  | (r, none) => .ok r
  | (_, some e) => .error e

/-- The state after an observation, whether or not it is refused. -/
def observe (tables : Tables) (r : Reentrancy σ) (o : Observation σ) : Reentrancy σ := (r.attempt tables o).1

/-- Records observations in turn. -/
def observeAll (tables : Tables) (r : Reentrancy σ) (os : List (Observation σ)) : Reentrancy σ :=
  os.foldl (observe tables) r

/-- The greatest id of a block with a transfer. -/
def lastTransfer? (r : Reentrancy σ) : Option Int := (r.transfers.map Prod.fst).max?

/-- Whether an instruction writes the tracked balance: by an assignment other than a balance read, or by
a subtraction under an overflow guard. -/
def writesBalance (tables : Tables) (tracked : Option Place) : Item → Bool
  | .statement ⟨.assign destination source, _⟩ =>
    let rereads := match source with
      | .call callee _ => (tables.table .balanceRead).covers callee
      | _ => false
    !rereads && Place.sameLocation (some destination) tracked
  | .terminator ⟨.assert (.overflow .sub (.copy place) _) _ _ _, _⟩ => Place.sameLocation (some place) tracked
  | _ => false

/-- The recorded instructions of the blocks after `last`, by block id and then in order of recording. -/
def itemsAfter (r : Reentrancy σ) (last : Int) : List Item :=
  (Assoc.sortByKey (r.blocks.filter fun b => last < b.1)).flatMap Prod.snd

/-- The first write to the tracked balance after the last transfer. -/
def violation? (tables : Tables) (r : Reentrancy σ) : Option Item :=
  match r.lastTransfer?, r.tracked with
  | some last, some place => (r.itemsAfter last).find? (writesBalance tables (some place))
  | _, _ => none

def check (tables : Tables) (r : Reentrancy σ) : Bool := (r.violation? tables).isSome

/-- The spans of the balance read and of the write, if there is one. -/
def evidence? (tables : Tables) (r : Reentrancy σ) : Option (σ × Span) := do
  let item ← r.violation? tables
  let balance ← r.balance
  return (balance.2, item.span)

/-- From the balance read to the write. -/
def span (tables : Tables) (r : Reentrancy Span) : Span :=
  match r.evidence? tables with
  | some (read, write) => read.join write
  | none => .empty

/-- From the balance read to the write, where the span of the read is as a caller gave it. -/
def rawSpan (tables : Tables) (r : Reentrancy RawSpan) : Except OrderError RawSpan :=
  match r.evidence? tables with
  | some (read, write) => read.join write.raw
  | none => .ok .empty

def finding (tables : Tables) (r : Reentrancy Span) : Finding := ⟨.reentrancy, r.check tables, r.span tables⟩

def describe (r : Reentrancy σ) : String :=
  let transfers := (Assoc.sortByKey r.transfers).map fun t => toString t.1
  let balance := (r.tracked.map Place.text).getD "None"
  "<ReentrancyDetector blocks=" ++ toString r.blocks.length ++ " transfers=[" ++ ", ".intercalate transfers ++
    "] balance=" ++ balance ++ ">"

end Reentrancy

end ContractLint
