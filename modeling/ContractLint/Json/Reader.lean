import ContractLint.Number.Reading
import ContractLint.Text.Lines
import ContractLint.Value.Basic

/-! Reading of JSON text. The reader takes the longest value at the front and leaves the rest. A fault is located
by the text that is left where it was seen, which the outermost function turns into a position. JSON sets no bound to
the digits of an integer, but a reader may have a limit on them. -/

namespace ContractLint.Json

inductive Problem where
  | byteOrderMark
  | value
  | extraData
  | propertyName
  | colon
  | comma
  | unterminatedString
  | controlCharacter
  | escape
  | unicodeEscape
  deriving DecidableEq, Repr

def Problem.text : Problem → String
  | .byteOrderMark => "Unexpected UTF-8 BOM (decode using utf-8-sig)"
  | .value => "Expecting value"
  | .extraData => "Extra data"
  | .propertyName => "Expecting property name enclosed in double quotes"
  | .colon => "Expecting ':' delimiter"
  | .comma => "Expecting ',' delimiter"
  | .unterminatedString => "Unterminated string starting at"
  | .controlCharacter => "Invalid control character at"
  | .escape => "Invalid \\escape"
  | .unicodeEscape => "Invalid \\uXXXX escape"

/-- Why reading stopped: at a problem, with the text left where it was seen, or at an integer of too many
digits. -/
inductive Stop where
  | malformed (problem : Problem) (left : List Char)
  | longInteger (digits : Nat)
  deriving DecidableEq, Repr

/-- A problem with its position, line and column in the text. -/
structure Fault where
  problem : Problem
  position : Nat
  line : Nat
  column : Nat
  deriving DecidableEq, Repr

def Fault.text (f : Fault) : String :=
  f.problem.text ++ ": line " ++ toString f.line ++ " column " ++ toString f.column ++
    " (char " ++ toString f.position ++ ")"

def isSpace (c : Char) : Bool := c = ' ' || c = '\t' || c = '\n' || c = '\r'

def skip (cs : List Char) : List Char := cs.dropWhile isSpace

/-! ### Strings -/

/-- The value of a hexadecimal digit. -/
def hexDigit? (c : Char) : Option Nat :=
  if c.isDigit then some (c.toNat - 48)
  else if 'a' ≤ c && c ≤ 'f' then some (c.toNat - 87)
  else if 'A' ≤ c && c ≤ 'F' then some (c.toNat - 55)
  else none

/-- The value of four hexadecimal digits. -/
def hexUnit? (a b c d : Char) : Option Nat := do
  return ((← hexDigit? a) * 16 + (← hexDigit? b)) * 256 + (← hexDigit? c) * 16 + (← hexDigit? d)

/-- What a backslash and the given letter stand for. -/
def shortEscape? (c : Char) : Option Char :=
  if c = '"' || c = '\\' || c = '/' then some c
  else if c = 'b' then some '\x08'
  else if c = 'f' then some '\x0c'
  else if c = 'n' then some '\n'
  else if c = 'r' then some '\r'
  else if c = 't' then some '\t'
  else none

def isHighSurrogate (u : Nat) : Bool := 0xd800 ≤ u && u < 0xdc00

def isLowSurrogate (u : Nat) : Bool := 0xdc00 ≤ u && u < 0xe000

/-- The character of a surrogate pair. -/
def pairChar (high low : Nat) : Char :=
  Char.ofNat (0x10000 + (high - 0xd800) * 0x400 + (low - 0xdc00))

/-- Puts a code point in front of the text read so far. -/
def prepend (p : CodePoint) (read : Except Stop (List CodePoint × List Char)) :
    Except Stop (List CodePoint × List Char) :=
  read.map fun r => (p :: r.1, r.2)

/-- Reads a string after its opening quote. `start` is what was left at that quote. An escape by number needs
some text after its four digits, and so does the second one of a pair. -/
def string (start : List Char) : List Char → Except Stop (List CodePoint × List Char)
  | [] => .error (.malformed .unterminatedString start)
  | '"' :: rest => .ok ([], rest)
  | ['\\'] => .error (.malformed .unterminatedString start)
  | '\\' :: 'u' :: a :: b :: c :: d :: rest =>
    if rest.isEmpty then .error (.malformed .unicodeEscape ('u' :: a :: b :: c :: d :: rest))
    else
      match hexUnit? a b c d with
      | none => .error (.malformed .unicodeEscape ('u' :: a :: b :: c :: d :: rest))
      | some u =>
        if isHighSurrogate u then
          match rest with
          | '\\' :: 'u' :: a' :: b' :: c' :: d' :: rest' =>
            if rest'.isEmpty then prepend (.ofUnit u) (string start ('\\' :: 'u' :: a' :: b' :: c' :: d' :: rest'))
            else
              match hexUnit? a' b' c' d' with
              | none => .error (.malformed .unicodeEscape ('u' :: a' :: b' :: c' :: d' :: rest'))
              | some u' =>
                if isLowSurrogate u' then prepend (.char (pairChar u u')) (string start rest')
                else prepend (.ofUnit u) (string start ('\\' :: 'u' :: a' :: b' :: c' :: d' :: rest'))
          | rest' => prepend (.ofUnit u) (string start rest')
        else prepend (.ofUnit u) (string start rest)
  | '\\' :: e :: rest =>
    if e = 'u' then .error (.malformed .unicodeEscape (e :: rest))
    else
      match shortEscape? e with
      | none => .error (.malformed .escape ('\\' :: e :: rest))
      | some c => prepend (.char c) (string start rest)
  | c :: rest =>
    if c.toNat ≤ 0x1f then .error (.malformed .controlCharacter (c :: rest))
    else prepend (.char c) (string start rest)

/-! ### Numbers and names -/

/-- The digits before the point: a single zero, or a run that does not begin with one. -/
def whole? : List Char → Option (List Char × List Char)
  | '0' :: rest => some (['0'], rest)
  | cs =>
    let (digits, rest) := Number.spanDigits cs
    if digits.isEmpty then none else some (digits, rest)

/-- The digits after a point, if any follow it. -/
def fraction? : List Char → Option (List Char × List Char)
  | '.' :: rest =>
    let (digits, rest) := Number.spanDigits rest
    if digits.isEmpty then none else some (digits, rest)
  | _ => none

/-- The exponent, if there is a whole one. -/
def exponent? : List Char → Option (Int × List Char)
  | c :: rest =>
    if c = 'e' || c = 'E' then
      let (negative, rest) := Number.splitSign rest
      let (digits, rest) := Number.spanDigits rest
      if digits.isEmpty then none
      else some (Double.signed negative (Text.spelled (Number.digitValues digits)), rest)
    else none
  | [] => none

/-- The integer with the given digits, unless they are more than `limit` allows. -/
def integer (limit : Option Nat) (negative : Bool) (digits : List Char) : Except Stop Value :=
  if limit.any (· < digits.length) then .error (.longInteger digits.length)
  else .ok (.int (Double.signed negative (Text.spelled (Number.digitValues digits))))

/-- The longest number in front. Without fraction and exponent it is an integer. -/
def number (limit : Option Nat) (cs : List Char) : Except Stop (Value × List Char) :=
  let (negative, unsigned) := match cs with
    | '-' :: rest => (true, rest)
    | _ => (false, cs)
  match whole? unsigned with
  | none => .error (.malformed .value cs)
  | some (whole, rest) =>
    match fraction? rest, exponent? ((fraction? rest).map Prod.snd |>.getD rest) with
    | none, none => (integer limit negative whole).map fun v => (v, rest)
    | some (fraction, rest), none => .ok (.float (Number.doubleOf negative whole fraction 0), rest)
    | fraction, some (e, rest) =>
      .ok (.float (Number.doubleOf negative whole ((fraction.map Prod.fst).getD []) e), rest)

/-- The names of values. -/
def names : List (String × Value) :=
  [("null", .null), ("true", .bool true), ("false", .bool false), ("NaN", .float .nan),
   ("Infinity", .float (.infinite false)), ("-Infinity", .float (.infinite true))]

/-- What follows `front`, if the text begins with it. -/
def after? (front cs : List Char) : Option (List Char) :=
  if front.isPrefixOf cs then some (cs.drop front.length) else none

/-- The named value in front. -/
def named? (cs : List Char) : Option (Value × List Char) :=
  names.findSome? fun n => (after? n.1.toList cs).map fun rest => (n.2, rest)

/-! ### Values -/

/-- Reads the key of a member and the colon after it. -/
def key (cs : List Char) : Except Stop (Text × List Char) :=
  match cs with
  | '"' :: rest => do
    let (name, rest) ← string cs rest
    match skip rest with
    | ':' :: rest => return (⟨name⟩, skip rest)
    | rest => .error (.malformed .colon rest)
  | _ => .error (.malformed .propertyName cs)

/-- Reads what follows an item of a collection: a comma, after which there is another item, or the closing
bracket. -/
def separator (close : Char) (cs : List Char) : Except Stop (Bool × List Char) :=
  match skip cs with
  | [] => .error (.malformed .comma [])
  | c :: rest =>
    if c = ',' then .ok (true, skip rest)
    else if c = close then .ok (false, rest)
    else .error (.malformed .comma (c :: rest))

section

variable (limit : Option Nat)

mutual

/-- Reads a value, which begins at the first character. -/
def value : (fuel : Nat) → List Char → Except Stop (Value × List Char)
  | 0, cs => .error (.malformed .value cs)
  | fuel + 1, cs =>
    match cs with
    | '"' :: rest => do
      let (s, rest) ← string cs rest
      return (.string ⟨s⟩, rest)
    | '[' :: rest =>
      match skip rest with
      | ']' :: rest => .ok (.array [], rest)
      | rest => do
        let (elements, rest) ← elements fuel rest
        return (.array elements, rest)
    | '\x7b' :: rest =>
      match skip rest with
      | '\x7d' :: rest => .ok (.object [], rest)
      | rest => do
        let (members, rest) ← members fuel rest
        return (.object (Assoc.ofPairs members), rest)
    | _ =>
      match named? cs with
      | some found => .ok found
      | none => number limit cs

/-- Reads the elements of an array up to its closing bracket. -/
def elements : (fuel : Nat) → List Char → Except Stop (List Value × List Char)
  | 0, cs => .error (.malformed .value cs)
  | fuel + 1, cs => do
    let (v, rest) ← value fuel cs
    let (another, rest) ← separator ']' rest
    if another then
      let (vs, rest) ← elements fuel rest
      return (v :: vs, rest)
    else return ([v], rest)

/-- Reads the members of an object up to its closing brace. -/
def members : (fuel : Nat) → List Char → Except Stop (List (Text × Value) × List Char)
  | 0, cs => .error (.malformed .value cs)
  | fuel + 1, cs => do
    let (name, rest) ← key cs
    let (v, rest) ← value fuel rest
    let (another, rest) ← separator '\x7d' rest
    if another then
      let (more, rest) ← members fuel rest
      return ((name, v) :: more, rest)
    else return ([(name, v)], rest)

end

/-- Reads a text that holds one value and nothing else. Every second call of the reader takes a character, so
twice the length is fuel enough. -/
def document (cs : List Char) : Except Stop Value :=
  match cs with
  | '\ufeff' :: _ => .error (.malformed .byteOrderMark cs)
  | _ => do
    let (v, rest) ← value limit (2 * cs.length + 2) (skip cs)
    match skip rest with
    | [] => return v
    | rest => .error (.malformed .extraData rest)

end

/-- The fault of a problem seen where `left` remains of a text. -/
def Problem.locate (cs : List Char) (problem : Problem) (left : List Char) : Fault :=
  let position := cs.length - left.length
  let (line, column) := Text.lineColumn (cs.take position)
  ⟨problem, position, line, column⟩

/-- Why a text gives no value: it is no JSON, or it has an integer of too many digits. -/
inductive Failure where
  | malformed (fault : Fault)
  | longInteger (digits : Nat)
  deriving DecidableEq, Repr

/-- The value that a text holds, if none of its integers has more digits than `limit` allows. -/
def parseWithin (limit : Option Nat) (cs : List Char) : Except Failure Value :=
  (document limit cs).mapError fun stop =>
    match stop with
    | .malformed problem left => .malformed (problem.locate cs left)
    | .longInteger digits => .longInteger digits

/-- The value that a text holds, with the limit on digits that holds for all integers that are read. -/
def parse (cs : List Char) : Except Failure Value := parseWithin (some Number.maxDigits) cs

end ContractLint.Json
