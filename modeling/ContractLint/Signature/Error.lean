import ContractLint.File
import ContractLint.SExpr.Reader
import ContractLint.Signature.Path
import ContractLint.Value.Conversion
import ContractLint.Value.Key

/-! What can be wrong with a signature configuration. -/

namespace ContractLint.Signature

inductive Problem where
  | unreadable (fault : FileFault)
  | unparsable (fault : SExpr.Fault)
  | notForm
  | notSingleForm
  | badClause (clause : SExpr)
  | misplacedExtends
  | unknownTable (name : Text)
  | unknownTables (names : List Text)
  | symbolEntry (table symbol : String)
  | badEntry (table : String) (entry : SExpr)
  deriving Repr

def Problem.message : Problem → Text
  | .unreadable fault => "cannot read file: " ++ fault.text
  | .unparsable fault => "failed to parse S-expression: " ++ fault.text
  | .notForm => "expected a (signatures ...) form"
  | .notSingleForm => "expected exactly one (signatures ...) form"
  | .badClause clause => "bad clause " ++ clause.inspect
  | .misplacedExtends => "(extends default) must be the first clause"
  | .unknownTable name => "unknown signature table: " ++ name
  | .unknownTables names => "unknown signature table(s): " ++ Text.join ", " names
  | .symbolEntry table symbol => table ++ ": entries must be quoted strings, got symbol " ++ symbol
  | .badEntry table entry => table ++ ": entries must be callee path strings, got " ++ entry.inspect

/-- The message with the source of the configuration in front, unless that counts as false. -/
def describe (source : Value) (message : Text) : Text :=
  if source.truthy then source.display ++ ": " ++ message else message

/-- A problem in a configuration from the given source. -/
structure Error where
  problem : Problem
  source : Value := .ofString ""
  deriving Repr

def Error.message (e : Error) : Text := describe e.source e.problem.message

/-- Why a dynamic value gives no tables or names no table. -/
inductive MappingError where
  | config (error : Error)
  | conversion (error : ConversionError)
  | path (error : PathError)
  | key (error : NotKey)
  | order (error : OrderError)
  /-- A collection without look-up by key. -/
  | notMapping (shape : Shape)
  deriving Repr

def MappingError.message : MappingError → Text
  | .config error => error.message
  | .conversion error => error.message
  | .path error => error.message
  | .key error => error.message
  | .order error => error.message
  | .notMapping shape => "'" ++ shape.name ++ "' object has no attribute 'get'"

end ContractLint.Signature
