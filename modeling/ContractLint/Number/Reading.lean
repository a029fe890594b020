import ContractLint.Number.Double
import ContractLint.Text.Blank
import ContractLint.Text.Digit

/-! Numbers read from text. Blanks may surround a number, its digits may be those of any script, and a single
underscore may stand between two digits. -/

namespace ContractLint.Number

open Text

/-- Brings the blanks and digits of other scripts to their ASCII forms; other characters stay. -/
def foldChar (c : Char) : Char :=
  if c.toNat < 127 then c
  else if isBlank c then ' '
  else match digit? c with
    | some d => Char.ofNat (48 + d)
    | none => c

/-- The text of a number in ASCII, without the blanks in front of it. -/
def folded (cs : List Char) : List Char := (cs.map foldChar).dropWhile isAsciiBlank

/-- The sign in front, if there is one: whether it is a minus, and what follows it. -/
def splitSign : List Char → Bool × List Char
  | '-' :: cs => (true, cs)
  | '+' :: cs => (false, cs)
  | cs => (false, cs)

/-- The values of ASCII digits. -/
def digitValues (cs : List Char) : List Nat := cs.map fun c => c.toNat - 48

/-- The digits of a row in which each underscore stands between two of them. -/
def groupedDigits : (afterDigit : Bool) → List Char → Option (List Nat)
  | afterDigit, [] => if afterDigit then some [] else none
  | afterDigit, c :: cs =>
    if c = '_' then
      if afterDigit then groupedDigits false cs else none
    else
      match asciiDigit? c with
      | some d => (groupedDigits true cs).map (d :: ·)
      | none => none

/-- The greatest number of digits that an integer is read or written with. -/
def maxDigits : Nat := 4300

/-- Why a text was not read as an integer. -/
inductive IntegerFault where
  | malformed
  | tooLong (digits : Nat)
  deriving DecidableEq, Repr

/-- The integer that a row of digits spells, unless the row is too long. -/
def spelledInteger (negative : Bool) (digits : List Nat) : Except IntegerFault Int :=
  if maxDigits < digits.length then .error (.tooLong digits.length)
  else .ok (Double.signed negative (spelled digits))

/-- Whether a character belongs to a row of digits. -/
def isGrouped (c : Char) : Bool := c.isDigit || c = '_'

/-- Reads an integer in base ten. A row of digits that is too long is refused before what follows it is
looked at. -/
def integer (cs : List Char) : Except IntegerFault Int :=
  let (negative, cs) := splitSign (folded cs)
  match groupedDigits false (cs.takeWhile isGrouped) with
  | none => .error .malformed
  | some digits => do
    let n ← spelledInteger negative digits
    if (cs.dropWhile isGrouped).all isAsciiBlank then return n else .error .malformed

/-! ### Binary numbers -/

/-- The number with the given digits before and after the point, times a power of ten. -/
def doubleOf (negative : Bool) (whole fraction : List Char) (exponent : Int) : Double :=
  Double.ofDecimal negative (spelled (digitValues (whole ++ fraction))) (exponent - fraction.length)

/-- Removes underscores, each of which has to stand between two digits. -/
def ungroup : (previous : Char) → List Char → Option (List Char)
  | previous, [] => if previous = '_' then none else some []
  | previous, c :: cs =>
    if c = '_' then
      if previous.isDigit then ungroup c cs else none
    else if previous = '_' && !c.isDigit then none
    else (ungroup c cs).map (c :: ·)

/-- A leading run of digits and the rest. -/
def spanDigits (cs : List Char) : List Char × List Char := (cs.takeWhile Char.isDigit, cs.dropWhile Char.isDigit)

/-- The exponent that is all of the text; no exponent at all means zero. -/
def exponent? : List Char → Option Int
  | [] => some 0
  | c :: cs =>
    if c = 'e' || c = 'E' then
      let (negative, digits) := splitSign cs
      if digits.isEmpty || !digits.all Char.isDigit then none
      else some (Double.signed negative (spelled (digitValues digits)))
    else none

/-- Reads digits with an optional point and an optional exponent; one digit has to stand before or after
the point. -/
def unsignedDouble? (negative : Bool) (cs : List Char) : Option Double :=
  let (whole, rest) := spanDigits cs
  let (fraction, rest) := match rest with
    | '.' :: more => spanDigits more
    | _ => ([], rest)
  if whole.isEmpty && fraction.isEmpty then none
  else (exponent? rest).map (doubleOf negative whole fraction)

/-- Reads a decimal number, or a name of infinity or of not-a-number in any case. -/
def double? (cs : List Char) : Option Double :=
  match ungroup ' ' (trimBy isAsciiBlank (cs.map foldChar)) with
  | none => none
  | some cs =>
    let (negative, cs) := splitSign cs
    let name := String.ofList (cs.map Char.toLower)
    if name = "inf" ∨ name = "infinity" then some (.infinite negative)
    else if name = "nan" then some .nan
    else unsignedDouble? negative cs

end ContractLint.Number
