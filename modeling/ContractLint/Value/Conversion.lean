import ContractLint.Number.Reading
import ContractLint.Text.Quoted
import ContractLint.Value.Basic

/-! Conversions of dynamic values: to an integer, to the sequence of their parts and to a pair. -/

namespace ContractLint

/-- Why a value could not be converted. -/
inductive ConversionError where
  | notIterable (shape : Shape)
  | notPair (shape : Shape)
  | tooFew (count : Nat)
  | tooMany
  | notInteger (shape : Shape)
  | badInteger (text : Text)
  | longInteger (digits : Nat)
  | nan
  | infinite
  deriving DecidableEq, Repr

/-- How much of a text is shown that is no integer. -/
def ConversionError.shownLength : Nat := 200

def ConversionError.message : ConversionError → String
  | .notIterable shape => "'" ++ shape.name ++ "' object is not iterable"
  | .notPair shape => "cannot unpack non-iterable " ++ shape.name ++ " object"
  | .tooFew count => "not enough values to unpack (expected 2, got " ++ toString count ++ ")"
  | .tooMany => "too many values to unpack (expected 2)"
  | .notInteger shape =>
    "int() argument must be a string, a bytes-like object or a real number, not '" ++ shape.name ++ "'"
  | .badInteger text => "invalid literal for int() with base 10: " ++ text.quotedTo shownLength
  | .longInteger digits =>
    "Exceeds the limit (" ++ toString Number.maxDigits ++ " digits) for integer string conversion: value has " ++
      toString digits ++ " digits; use sys.set_int_max_str_digits() to increase the limit"
  | .nan => "cannot convert float NaN to integer"
  | .infinite => "cannot convert float infinity to integer"

/-- Whether the value had no meaning as what was asked. Infinity has one, but no integer can hold it. -/
def ConversionError.isBadValue : ConversionError → Bool
  | .infinite => false
  | _ => true

namespace Value

/-- The integer that a value stands for. Fractions are cut off and text is read in base ten. -/
def toInt : Value → Except ConversionError Int
  | .int n => .ok n
  | .bool b => .ok (if b then 1 else 0)
  | .float .nan => .error .nan
  | .float (.infinite _) => .error .infinite
  | .float (.finite negative m e) => .ok (Double.integerPart negative m e)
  | .string s =>
    (Number.integer s.chars).mapError fun fault =>
      match fault with
      | .malformed => .badInteger s
      | .tooLong digits => .longInteger digits
  | v => .error (.notInteger v.shape)

/-- The parts of a value, if it has any: the elements of an array, the code points of a text or the keys of an
object. -/
def parts? : Value → Option (List Value)
  | .array elements => some elements
  | .string s => some (s.points.map fun p => .string ⟨[p]⟩)
  | .object fields => some (fields.map fun f => .string f.1)
  | _ => none

/-- The parts of a value. -/
def parts (v : Value) : Except ConversionError (List Value) :=
  match v.parts? with
  | some vs => .ok vs
  | none => .error (.notIterable v.shape)

/-- The parts of a value that has exactly two. -/
def toPair (v : Value) : Except ConversionError (Value × Value) :=
  match v.parts? with
  | some [a, b] => .ok (a, b)
  | some (_ :: _ :: _) => .error .tooMany
  | some vs => .error (.tooFew vs.length)
  | none => .error (.notPair v.shape)

@[simp] theorem toInt_int (n : Int) : toInt (.int n) = .ok n := rfl

end Value

end ContractLint
