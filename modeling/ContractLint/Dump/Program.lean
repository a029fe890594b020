import ContractLint.Dump.Function

/-! Loading of whole dumps, from a value or from a file. -/

namespace ContractLint.Dump

def program (v : Value) : Except Failure Program :=
  match v with
  | .object _ =>
    let file := ((v.get? "file").map Value.display).getD {}
    match (v.get? "functions").getD (.array []) with
    | .array functions => do return ⟨file, ← functions.mapM (function (.string file))⟩
    | other => .error (.malformed ⟨.functionsNotList other.shape, {}⟩)
  | _ => .error (.malformed ⟨.notProgram, {}⟩)

/-- Loads the dump that a file holds. -/
def load (f : File) : Except Failure Program :=
  match f.text with
  | .error fault => .error (.malformed ⟨.unreadable f.path fault, {}⟩)
  | .ok cs =>
    match Json.parse cs with
    | .error (.malformed fault) => .error (.malformed ⟨.invalidJson f.path fault, {}⟩)
    | .error (.longInteger digits) => .error (.conversion (.longInteger digits))
    | .ok v => program v

end ContractLint.Dump
