import ContractLint.Signature.Error
import ContractLint.Signature.Tables
import ContractLint.Value.Display

/-! Tables given by a dynamic value that maps their names to paths, and look-up of a table by a dynamic name. -/

namespace ContractLint.Signature

/-- The table that a value names. -/
def tableName? (v : Value) : Option TableName := v.string?.bind TableName.ofText?

/-- The names among the keys that are no table's, in order. Keys other than texts can be put in order, if they are
all numbers, but not listed: the first of them is refused. -/
def unknownNames (keys : List Value) : Except MappingError (List Text) := do
  let keys ← (keys.mapM Value.key).mapError .key
  match (Value.distinct keys).filter fun v => (tableName? v).isNone with
  | [] => return []
  | v :: vs =>
    let first ← (vs.foldlM Value.least v).mapError .order
    match first with
    | .string _ => return sortedTexts ((v :: vs).map Value.display)
    | other => throw (.path (.notText 0 other.shape))

/-- The table of the paths under its name; without that name it is empty. -/
def tableUnder (v : Value) (name : TableName) : Except MappingError Table := do
  let entries ← ((v.get? name.text).getD (.array [])).parts.mapError .conversion
  (Table.ofValues entries).mapError .path

/-- The tables that a mapping describes. A value that counts as false describes empty ones. -/
def ofValue (v : Value) : Except MappingError Tables := do
  if !v.truthy then return .empty
  let keys ← v.parts.mapError .conversion
  let unknown ← unknownNames keys
  if !unknown.isEmpty then throw (.config { problem := .unknownTables unknown })
  match v with
  | .object _ =>
    let found ← TableName.all.mapM fun n => do return (n, ← tableUnder v n)
    return ⟨fun n => (Assoc.get? found n).getD .empty⟩
  | v => throw (.notMapping v.shape)

/-- The table under a dynamic name. -/
def lookup (t : Tables) (name : Value) : Except MappingError Table := do
  let name ← name.key.mapError .key
  match tableName? name with
  | some n => return t.table n
  | none => throw (.config { problem := .unknownTable name.display })

/-- Whether the table under a name matches a callee. -/
def matchesIn (t : Tables) (name callee : Value) : Except MappingError Bool := do
  (← lookup t name).matchesValue callee |>.mapError .path

/-- Whether a value is a text in the table under a name. -/
def containedIn (t : Tables) (name v : Value) : Except MappingError Bool := do
  return (← lookup t name).containsValue v

end ContractLint.Signature
