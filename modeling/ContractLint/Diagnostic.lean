import ContractLint.Detector.Kind
import ContractLint.Json.Writer

/-! Diagnostics: findings in words, with a weakness number and a severity. A diagnostic is written as a line of
JSON or as a line in the manner of compilers. -/

namespace ContractLint

inductive Severity where
  | error
  | warning
  | style
  | information
  deriving DecidableEq, Repr

namespace Severity

def all : List Severity := [.error, .warning, .style, .information]

def text : Severity → String
  | .error => "error"
  | .warning => "warning"
  | .style => "style"
  | .information => "information"

def ofText? (s : String) : Option Severity := all.find? (·.text = s)

/-- The severity that a dynamic value names. -/
def ofValue (v : Value) : Except InvalidChoice Severity :=
  match v.string?.bind ofText? with
  | some severity => .ok severity
  | none => .error ⟨v, "DiagnosticSeverity"⟩

end Severity

/-- How likely a diagnostic is right: `medium` where several facts agree, `low` where an API is mentioned. -/
inductive Confidence where
  | medium
  | low
  deriving DecidableEq, Repr

namespace Confidence

def text : Confidence → String
  | .medium => "MEDIUM"
  | .low => "LOW"

def ofText? (s : String) : Option Confidence := [medium, low].find? (·.text = s)

end Confidence

/-- How findings of one kind are reported. The message is given by what stands before and after the name of
the function. -/
structure Rule where
  errorId : String
  severity : Severity
  cwe : Int
  confidence : Confidence
  before : String
  after : String
  deriving DecidableEq, Repr

namespace Rule

def ofKind : DetectorKind → Rule
  | .reentrancy =>
    { errorId := "reentrancy", severity := .error, cwe := 841, confidence := .medium
      before := "Balance is updated after lamports are transferred out in '"
      after := "'; update the ledger before the transfer" }
  | .badRandomness =>
    { errorId := "badRandomness", severity := .warning, cwe := 330, confidence := .low
      before := "'"
      after := "' relies on a predictable randomness source" }
  | .timeManipulation =>
    { errorId := "timeManipulation", severity := .warning, cwe := 829, confidence := .low
      before := "'"
      after := "' depends on the validator clock, which can be skewed" }
  | .numericalPrecision =>
    { errorId := "numericalPrecisionError", severity := .style, cwe := 1339, confidence := .low
      before := "'"
      after := "' rounds a floating-point value; precision may be lost" }

/-- The message for a function; one without a name is called anonymous. -/
def message (r : Rule) (function : Text) : Text :=
  let name : Text := if function.isEmpty then "<anonymous>" else function
  r.before ++ name ++ r.after

/-- The message with a placeholder for the function. -/
def template (r : Rule) : String := r.before ++ "\x7bfunction\x7d" ++ r.after

end Rule

/-- A diagnostic as it is written. Its fields are whatever they were given as. -/
structure Notice where
  errorId : Value
  message : Value
  severity : Severity
  location : RawSpan := .empty
  confidence : Confidence := .low
  cwe : Value := .int 0
  detector : Value := .ofString ""
  function : Value := .ofString ""
  deriving Repr

namespace Notice

/-- The fields of a notice; a weakness number that counts as false is left out. -/
def toValue (n : Notice) : Value :=
  .record ([
    ("file", n.location.file),
    ("linenr", n.location.line),
    ("column", n.location.column),
    ("lo", n.location.lo),
    ("hi", n.location.hi),
    ("severity", .ofString n.severity.text),
    ("message", n.message),
    ("errorId", n.errorId),
    ("function", n.function)] ++
    if n.cwe.truthy then [("cwe", n.cwe)] else [])

def jsonLine (n : Notice) : Except Json.LongInteger String := Json.write n.toValue

/-- Location, severity, message and id, in the manner of compilers. -/
def textLine (n : Notice) : Text :=
  n.location.text ++ ": " ++ n.severity.text ++ ": " ++ n.message.display ++ " [" ++ n.errorId.display ++ "]"

end Notice

structure Diagnostic where
  errorId : String
  message : Text
  severity : Severity
  location : Span := .empty
  confidence : Confidence := .low
  cwe : Int := 0
  detector : String := ""
  function : Text := {}
  deriving DecidableEq, Repr

namespace Diagnostic

/-- What is written of a diagnostic. -/
def notice (d : Diagnostic) : Notice :=
  { errorId := .ofString d.errorId
    message := .string d.message
    severity := d.severity
    location := d.location.raw
    confidence := d.confidence
    cwe := .int d.cwe
    detector := .ofString d.detector
    function := .string d.function }

def toValue (d : Diagnostic) : Value := d.notice.toValue

def jsonLine (d : Diagnostic) : Except Json.LongInteger String := d.notice.jsonLine

def textLine (d : Diagnostic) : Text := d.notice.textLine

/-- The diagnostic of a finding in a function, if it is triggered. -/
def ofFinding? (f : Finding) (function : Text) : Option Diagnostic :=
  if f.triggered then
    let rule := Rule.ofKind f.kind
    some {
      errorId := rule.errorId
      message := rule.message function
      severity := rule.severity
      location := f.span
      confidence := rule.confidence
      cwe := rule.cwe
      detector := f.kind.text
      function := function }
  else none

end Diagnostic

/-- The notice of a triggered detector, for a function and a span as a caller gives them. A function that counts as
false has no name. -/
def Notice.ofKind (kind : DetectorKind) (span : RawSpan) (function : Value) : Notice :=
  let rule := Rule.ofKind kind
  { errorId := .ofString rule.errorId
    message := .string (rule.message (if function.truthy then function.display else {}))
    severity := rule.severity
    location := span
    confidence := rule.confidence
    cwe := .int rule.cwe
    detector := .ofString kind.text
    function := function }

/-- A finding in a function is noticed in the same words. -/
theorem Diagnostic.map_notice_ofFinding? (f : Finding) (function : Text) :
    (ofFinding? f function).map notice =
      if f.triggered then some (.ofKind f.kind f.span.raw (.string function)) else none := by
  have name : (if (Value.string function).truthy then function else {}) = function := by
    obtain ⟨points⟩ := function
    cases points <;> simp [Value.truthy, Text.isEmpty]
  by_cases h : f.triggered <;> simp [ofFinding?, notice, Notice.ofKind, h, name]

end ContractLint
