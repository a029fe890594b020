import ContractLint.Signature.Error
import ContractLint.Signature.Tables

/-! Configuration in text form. It is one form that begins with `signatures`; its clauses name a table and give
paths for it, and a first clause `(extends default)` adds the standard tables. -/

namespace ContractLint.Signature

/-- Whether a text has a character that is not blank. -/
def isPath (s : String) : Bool := !(Text.trim (s : Text).points).isEmpty

/-- The path that an entry of a table gives. -/
def entry (table : String) (e : SExpr) : Except Problem String :=
  match e with
  | .symbol name => .error (.symbolEntry table name)
  | .string s => if isPath s then .ok s else .error (.badEntry table (.string s))
  | e => .error (.badEntry table e.plain)

/-- Whether the expressions are the single word `default`. -/
def isDefault : List SExpr → Bool
  | [e] => e.word? == some "default"
  | _ => false

/-- What a clause says: that the standard tables are extended, or paths for a table. -/
inductive Clause where
  | extendsDefault
  | additions (table : TableName) (paths : List String)
  deriving DecidableEq, Repr

/-- Reads a clause; only the first one may extend the standard tables. -/
def clause (first : Bool) : SExpr → Except Problem Clause
  | .list (head :: tail) =>
    if head.word? = some "extends" then
      if first && isDefault tail then .ok .extendsDefault else .error .misplacedExtends
    else
      match head.word?.bind TableName.ofText? with
      | some table => do return .additions table (← tail.mapM (entry table.text))
      | none => .error (.unknownTable head.plain.display)
  | e => .error (.badClause e)

/-- Reads the clauses of a form. -/
def clauses : List SExpr → Except Problem (List Clause)
  | [] => .ok []
  | e :: es => do
    let c ← clause true e
    return c :: (← es.mapM (clause false))

/-- The paths that a clause gives, under the name of their table. -/
def Clause.entries : Clause → List (TableName × Text)
  | .extendsDefault => []
  | .additions table paths => paths.map fun p => (table, .ofString p)

/-- The tables that a list of clauses describes. -/
def tablesOf (cs : List Clause) : Tables :=
  let own := Tables.ofEntries (cs.flatMap Clause.entries)
  if cs.contains .extendsDefault then Tables.standard.merge own else own

/-- The tables that the expressions of a configuration describe. -/
def ofForms : SExpr → Except Problem Tables
  | .list [.list (head :: rest)] => do
    if head.word? = some "signatures" then return tablesOf (← clauses rest)
    else .error .notSingleForm
  | .list _ => .error .notSingleForm
  | _ => .error .notForm

/-- The tables of a configuration, given what a reader has made of its text; `source` says in messages where it
comes from. -/
def ofRead (read : Except SExpr.Fault SExpr) (source : Value) : Except Error Tables :=
  match read with
  | .error fault => .error ⟨.unparsable fault, source⟩
  | .ok forms => (ofForms forms).mapError fun problem => ⟨problem, source⟩

/-- Reads a configuration. -/
def parse (cs : List Char) (source : Value) : Except Error Tables := ofRead (SExpr.readAll cs) source

/-- Why a configuration file could not be used. -/
inductive LoadError where
  | config (error : Error)
  | undecodable (fault : Text.Utf8.Fault)
  deriving Repr

/-- Reads the configuration that a file holds. -/
def load (f : File) : Except LoadError Tables :=
  match f.text with
  | .error (.undecodable fault) => .error (.undecodable fault)
  | .error fault => .error (.config ⟨.unreadable fault, .ofString f.path⟩)
  | .ok cs => (parse cs (.ofString f.path)).mapError .config

end ContractLint.Signature
