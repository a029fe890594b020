import ContractLint.Detector.Flag
import ContractLint.Detector.Reentrancy
import ContractLint.Diagnostic
import ContractLint.Model.Body

/-! The analysis of one function. Its blocks are visited in order of their ids and each of their instructions in
turn; every enabled detector then gives its verdict. -/

namespace ContractLint

/-- The call that an instruction makes, with the place that its result goes to. -/
def Item.call? (block : Int) : Item → Option (Observation Span)
  | .statement ⟨.assign destination (.call callee _), span⟩ =>
    some (.call block (.string callee) (some destination) span)
  | .terminator ⟨.call callee _ destination _, span⟩ => some (.call block (.string callee) destination span)
  | _ => none

/-- What is observed of an instruction: the instruction, then the call that it makes. -/
def Item.observations (block : Int) (item : Item) : List (Observation Span) :=
  .item block item :: (item.call? block).toList

/-- All that is observed of a function, in the order of the visit. -/
def Body.observations (body : Body) : List (Observation Span) :=
  body.blocks.flatMap fun b => b.items.flatMap (Item.observations b.id)

/-- The normalised paths that an instruction refers to. -/
def Item.references (item : Item) : Except PathError (List Text) := item.paths.mapM Path.ofValue

/-- The span of every instruction and the paths that it refers to. -/
def Body.references (body : Body) : Except PathError (List (Span × List Text)) :=
  body.items.mapM fun item => do return (item.span, ← item.references)

/-- The spans of the instructions that refer to a table. -/
def Table.referencesIn (t : Table) (references : List (Span × List Text)) : List Span :=
  (references.filter fun r => r.2.any t.entries.contains).map Prod.fst

/-- The findings of the enabled detectors on one function. -/
structure Report where
  function : Text
  findings : List Finding := []
  deriving DecidableEq, Repr

namespace Report

def finding? (r : Report) (kind : DetectorKind) : Option Finding := r.findings.find? (·.kind = kind)

def triggered (r : Report) (kind : DetectorKind) : Bool := ((r.finding? kind).map (·.triggered)).getD false

def positive (r : Report) : List Finding := r.findings.filter (·.triggered)

def diagnostics (r : Report) : List Diagnostic := r.positive.filterMap (Diagnostic.ofFinding? · r.function)

end Report

/-- The tables to match against and the detectors to run. -/
structure Checker where
  tables : Tables := .standard
  enabled : List DetectorKind := DetectorKind.all

namespace Checker

def reentrancyFindings (c : Checker) (body : Body) : List Finding :=
  if .reentrancy ∈ c.enabled then
    [(Reentrancy.observeAll c.tables {} body.observations).finding c.tables]
  else []

def flags (c : Checker) : List FlagKind := FlagKind.all.filter fun f => f.detector ∈ c.enabled

def flagFinding (c : Checker) (references : List (Span × List Text)) (f : FlagKind) : Finding :=
  (((c.tables.table f.table).referencesIn references).foldl Flag.record {}).finding f

/-- The paths that a function refers to are looked at only if some flag is enabled. -/
def flagFindings (c : Checker) (body : Body) : Except PathError (List Finding) :=
  if c.flags.isEmpty then .ok []
  else body.references.map fun references => c.flags.map (c.flagFinding references)

/-- Visits a function with fresh detectors. -/
def visit (c : Checker) (body : Body) : Except PathError Report := do
  return ⟨body.name, c.reentrancyFindings body ++ (← c.flagFindings body)⟩

end Checker

end ContractLint
