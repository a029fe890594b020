import ContractLint.Dump.Item
import ContractLint.Model.Body

/-! Loading of blocks and functions. A function is accepted when its blocks load one by one, have distinct ids
and lead only to each other. -/

namespace ContractLint.Dump

def blockId (c : Context) (v : Value) : Except Failure Int :=
  Context.requireInt { c with block := none } "basic block" v "id"

def block (c : Context) (v : Value) : Except Failure Block := do
  let id ← blockId c v
  let c := c.inBlock id
  let statements ← (← listField v "statements").mapM (statement c)
  let terminator ← (v.given? "terminator").mapM (terminator c)
  return ⟨id, statements, terminator⟩

/-- Adds a block, whose id has to be new. -/
def addBlock (c : Context) (g : Graph) (block : Block) : Except Failure Graph :=
  match g.add? block with
  | some g => .ok g
  | none => (c.inBlock block.id).fail .duplicateBlock

/-- Refuses a graph with a successor that is not in it. -/
def validate (c : Context) (g : Graph) : Except Failure Unit :=
  match g.dangling? with
  | none => .ok ()
  | some (id, target) => (c.inBlock id).fail (.danglingTarget target)

/-- Loads one more block of a function. A value that cannot be converted is a problem of that block, if its id
is known. -/
def nextBlock (c : Context) (g : Graph) (v : Value) : Except Failure Graph := do
  let b ← (block c v).mapError (Failure.located ⟨c.function, (blockId c v).toOption⟩)
  addBlock c g b

/-- Loads the graph of a function from its blocks. -/
def graph (c : Context) (blocks : Value) : Except Failure Graph := do
  let blocks ← (convert blocks.parts).mapError (Failure.located c.location)
  let g ← blocks.foldlM (nextBlock c) {}
  validate c g
  return g

/-- The span of a function, which may be left out. -/
def functionSpan (c : Context) (v : Value) : Except Failure Span :=
  match v.given? "span" with
  | some s => span c s
  | none => .ok .empty

def function (file : Value) (v : Value) : Except Failure Body :=
  match v.get? "name" with
  | none => .error (.malformed ⟨.missingName, {}⟩)
  | some name => do
    let c : Context := ⟨file, .string name.display, none⟩
    let span ← functionSpan c v
    let g ← graph c (← c.require "function" v "blocks")
    return { toGraph := g, name := name.display, span := span }

end ContractLint.Dump
