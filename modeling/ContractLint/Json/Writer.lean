import ContractLint.Number.Reading
import ContractLint.Number.Shortest
import ContractLint.Text.Quoted
import ContractLint.Value.Basic

/-! Writing of JSON text on one line. Everything outside printable ASCII is escaped, characters beyond the basic
plane as a pair of surrogates and a surrogate on its own as it is. JSON sets no bound to the digits of an integer, but a
writer may have a limit on them, as a reader may. -/

namespace ContractLint.Json

/-- An integer has more digits than the limit of a writer, so that nothing is written. -/
structure LongInteger where
  limit : Nat
  deriving DecidableEq, Repr

def LongInteger.message (e : LongInteger) : String :=
  "Exceeds the limit (" ++ toString e.limit ++
    " digits) for integer string conversion; use sys.set_int_max_str_digits() to increase the limit"

def unitEscape (u : Nat) : List Char := '\\' :: 'u' :: Text.hex 4 u

/-- A character of a string. -/
def escapedChar (c : Char) : List Char :=
  if c = '"' || c = '\\' then ['\\', c]
  else if c = '\n' then ['\\', 'n']
  else if c = '\r' then ['\\', 'r']
  else if c = '\t' then ['\\', 't']
  else if c = '\x08' then ['\\', 'b']
  else if c = '\x0c' then ['\\', 'f']
  else if 32 ≤ c.toNat && c.toNat < 127 then [c]
  else if c.toNat < 0x10000 then unitEscape c.toNat
  else
    let n := c.toNat - 0x10000
    unitEscape (0xd800 + n / 0x400) ++ unitEscape (0xdc00 + n % 0x400)

/-- A code point of a string. -/
def escapedPoint : CodePoint → List Char
  | .char c => escapedChar c
  | .surrogate offset => unitEscape (0xd800 + offset)

def stringText (t : Text) : List Char := '"' :: t.points.flatMap escapedPoint ++ ['"']

def floatText : Double → String
  | .nan => "NaN"
  | .infinite negative => if negative then "-Infinity" else "Infinity"
  | x => x.text

/-- A field, whose value has the given text. -/
def fieldText (key : Text) (value : List Char) : List Char := stringText key ++ ": ".toList ++ value

/-- The texts of the items of a collection with commas between them. -/
def listed (items : List (List Char)) : List Char := ", ".toList.intercalate items

section

variable (limit : Option Nat)

/-- The digits of an integer with its sign, unless they are more than `limit` allows. -/
def integerText (n : Int) : Except LongInteger (List Char) :=
  match limit with
  | some most => if most < (Nat.toDigits 10 n.natAbs).length then .error ⟨most⟩ else .ok (toString n).toList
  | none => .ok (toString n).toList

mutual

/-- The text of a value. -/
def text : Value → Except LongInteger (List Char)
  | .null => .ok "null".toList
  | .bool b => .ok (if b then "true" else "false").toList
  | .int n => integerText limit n
  | .float x => .ok (floatText x).toList
  | .string s => .ok (stringText s)
  | .array elements => do return '[' :: listed (← elementTexts elements) ++ [']']
  | .object fields => do return '\x7b' :: listed (← fieldTexts fields) ++ ['\x7d']

def elementTexts : List Value → Except LongInteger (List (List Char))
  | [] => .ok []
  | v :: vs => do return (← text v) :: (← elementTexts vs)

def fieldTexts : List (Text × Value) → Except LongInteger (List (List Char))
  | [] => .ok []
  | (key, v) :: rest => do return fieldText key (← text v) :: (← fieldTexts rest)

end

end

/-- The text of a value on one line, if none of its integers has more digits than `limit` allows. -/
def writeWithin (limit : Option Nat) (v : Value) : Except LongInteger String := (text limit v).map String.ofList

/-- The text of a value on one line, with the limit on digits that holds for all integers that are written. -/
def write (v : Value) : Except LongInteger String := writeWithin (some Number.maxDigits) v

end ContractLint.Json
