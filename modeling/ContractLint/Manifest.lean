import ContractLint.Diagnostic

/-! What the package says about itself: its version, its parts, the names that it publishes and its rules. -/

namespace ContractLint.Manifest

def version : String := "0.1.0"

/-- The parts of the package. -/
def parts : List String := ["detectors", "diagnostics", "driver", "errors", "mir_model", "signatures"]

/-- The published names, in order. -/
def published : List String :=
  ["BadRandomnessDetector", "BasicBlock", "CheckerRunResults", "CheckerRunner", "Detector", "DetectorKind",
   "Diagnostic", "DiagnosticSeverity", "EMPTY_SPAN", "Finding", "FunctionBody", "FunctionReport",
   "FunctionVisitor", "MalformedCFGError", "MirShimsError", "NumericalPrecisionDetector", "Place", "Program",
   "ReentrancyDetector", "SignatureConfigError", "SignatureTables", "SourceSpan", "TimeManipulationDetector",
   "__version__", "analyze_dump", "default_signatures", "detectors", "diagnostics", "driver", "errors",
   "list_submodules", "load_program", "load_signatures", "mir_model", "parse_signatures", "program_from_dict",
   "same_tracked_location", "signatures"]

/-- The rule of every kind of detector. -/
def rules : List (DetectorKind × Rule) := DetectorKind.all.map fun k => (k, Rule.ofKind k)

end ContractLint.Manifest
