import ContractLint.Analysis.Report
import ContractLint.Dump.Program
import ContractLint.Signature.Config

/-! The analysis of a program: the reports and diagnostics of its functions, in order. -/

namespace ContractLint

structure Results where
  reports : List Report := []
  diagnostics : List Diagnostic := []
  /-- The diagnostics of each detector that has any. -/
  byDetector : List (String × List Diagnostic) := []
  functions : Nat := 0
  deriving DecidableEq, Repr

namespace Results

/-- Adds a diagnostic to the list of all and to that of its detector. -/
def addDiagnostic (r : Results) (d : Diagnostic) : Results :=
  { r with diagnostics := r.diagnostics ++ [d], byDetector := Assoc.push r.byDetector d.detector d }

/-- Adds a report and its diagnostics. -/
def addReport (r : Results) (report : Report) : Results :=
  report.diagnostics.foldl addDiagnostic
    { r with reports := r.reports ++ [report], functions := r.functions + 1 }

/-- The first report on the function with a given name. -/
def report? (r : Results) (function : Value) : Option Report := r.reports.find? (.string ·.function = function)

def withSeverity (r : Results) (s : Severity) : List Diagnostic := r.diagnostics.filter (·.severity = s)

def withFunction (r : Results) (function : Value) : List Diagnostic :=
  r.diagnostics.filter (.string ·.function = function)

/-- The diagnostics whose weakness number is worth the given value. -/
def withCwe (r : Results) (cwe : Value) : List Diagnostic := r.diagnostics.filter fun d => cwe.alike (.int d.cwe)

def ofDetector (r : Results) (detector : String) : List Diagnostic := (Assoc.get? r.byDetector detector).getD []

def errorCount (r : Results) : Nat := (r.withSeverity .error).length

def warningCount (r : Results) : Nat := (r.withSeverity .warning).length

def totalCount (r : Results) : Nat := r.diagnostics.length

/-- The lines of all diagnostics; there are none at all if one of them cannot be written. -/
def jsonLines (r : Results) : Except Json.LongInteger String :=
  (r.diagnostics.mapM Diagnostic.jsonLine).map "\n".intercalate

def textLines (r : Results) : Text := Text.join "\n" (r.diagnostics.map Diagnostic.textLine)

/-- The counts in words, the detectors that found something, and the time in milliseconds if it is known. -/
def summary (r : Results) (elapsed : Option Double) : String :=
  let head := "Analysed " ++ toString r.reports.length ++ " functions: " ++ toString r.totalCount ++
    " diagnostics (" ++ toString r.errorCount ++ " errors, " ++ toString r.warningCount ++ " warnings)"
  let detectors := DetectorKind.all.filterMap fun k =>
    let count := (r.ofDetector k.text).length
    if count = 0 then none else some ("  " ++ k.text ++ ": " ++ toString count ++ " findings")
  let time := elapsed.toList.map fun ms => "  elapsed: " ++ ms.fixedText 1 ++ "ms"
  "\n".intercalate (head :: detectors ++ time)

end Results

namespace Checker

/-- Visits the functions in turn. -/
def run (c : Checker) (functions : List Body) : Except PathError Results :=
  functions.foldlM (fun r body => do return r.addReport (← c.visit body)) {}

end Checker

/-- Why an analysis of files gave no results. -/
inductive AnalysisError where
  | signatures (error : Signature.LoadError)
  | dump (failure : Dump.Failure)
  | path (error : PathError)
  deriving Repr

/-- Analyses the dump in a file, with the signatures of another file if there is one. Those are read first. -/
def analyzeFiles (dump : File) (signatures : Option File) (enabled : List DetectorKind) :
    Except AnalysisError Results := do
  let tables ← match signatures with
    | some f => (Signature.load f).mapError .signatures
    | none => pure .standard
  let program ← (Dump.load dump).mapError .dump
  (Checker.run ⟨tables, enabled⟩ program.functions).mapError .path

end ContractLint
