import ContractLint.Text.Lines
import ContractLint.Text.Utf8

/-! Files as their readers meet them: absent, a directory, or bytes to be decoded. -/

namespace ContractLint

inductive FileContent where
  | missing
  | directory
  | bytes (data : List UInt8)
  deriving DecidableEq, Repr

structure File where
  path : String
  content : FileContent
  deriving DecidableEq, Repr

/-- Why a file has no text. -/
inductive FileFault where
  | missing (path : String)
  | directory (path : String)
  | undecodable (fault : Text.Utf8.Fault)
  deriving DecidableEq, Repr

def FileFault.text : FileFault → String
  | .missing path => "[Errno 2] No such file or directory: " ++ Text.quoted path
  | .directory path => "[Errno 21] Is a directory: " ++ Text.quoted path
  | .undecodable fault => fault.text

/-- The text of a file, with its line ends unified. -/
def File.text (f : File) : Except FileFault (List Char) :=
  match f.content with
  | .missing => .error (.missing f.path)
  | .directory => .error (.directory f.path)
  | .bytes data =>
    match Text.Utf8.decode data with
    | .ok cs => .ok (Text.unifyLineEnds cs)
    | .error fault => .error (.undecodable fault)

end ContractLint
