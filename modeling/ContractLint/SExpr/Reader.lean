import ContractLint.Number.Reading
import ContractLint.SExpr.Basic

/-! Reading of symbolic expressions. Round and square brackets both make lists, `;` begins a comment up to the end
of the line, and an apostrophe quotes the expression that follows it. -/

namespace ContractLint.SExpr

/-- Why a text holds no expression. -/
inductive Fault where
  /-- A closing bracket with nothing open; `rest` is the text from it on. -/
  | extraClosing (rest : String)
  | unclosed (expected : Char) (found : Option Char)
  /-- Nothing after the apostrophe at `position`. -/
  | nothingQuoted (position : Nat)
  | notSingle
  | unterminatedString
  | danglingEscape
  deriving DecidableEq, Repr

def Fault.text : Fault → String
  | .extraClosing rest =>
    "Too many closing brackets. Expected no character left in the sexp. Got: " ++ Text.quoted rest
  | .unclosed expected found =>
    let found := match found with
      | some c => Text.quoted (String.singleton c)
      | none => "None"
    "Not enough closing brackets. Expected " ++ Text.quoted (String.singleton expected) ++
      " to be the last letter in the sexp. Got: " ++ found
  | .nothingQuoted position => "No s-exp is found after an apostrophe at position " ++ toString position
  | .notSingle => ""
  | .unterminatedString => "'NoneType' object has no attribute 'start'"
  | .danglingEscape => "string index out of range"

def isSpace (c : Char) : Bool := Text.isAsciiBlank c

def isOpening (c : Char) : Bool := c = '(' || c = '['

def isClosing (c : Char) : Bool := c = ')' || c = ']'

/-- The bracket that closes an opening one. -/
def closing (c : Char) : Char := if c = '[' then ']' else ')'

/-- The list that a pair of brackets makes. -/
def bracketed (opening : Char) (elements : List SExpr) : SExpr :=
  if opening = '[' then .brackets elements else .list elements

/-! ### Strings and atoms -/

/-- What a backslash and a character stand for in a string. -/
def stringEscape (c : Char) : List Char :=
  if c = '\\' || c = '"' then [c]
  else if c = 'b' then ['\x08']
  else if c = 'f' then ['\x0c']
  else if c = 'n' then ['\n']
  else if c = 'r' then ['\r']
  else if c = 't' then ['\t']
  else ['\\', c]

/-- What a backslash and a character stand for in an atom. -/
def atomEscape (c : Char) : List Char :=
  if "\\'`\"()[] ,?;#".toList.contains c then [c] else ['\\', c]

/-- Puts characters in front of the text read so far. -/
def prepend (cs : List Char) (read : Except Fault (List Char × List Char)) : Except Fault (List Char × List Char) :=
  read.map fun r => (cs ++ r.1, r.2)

/-- Reads a string after its opening quote. -/
def stringBody : List Char → Except Fault (List Char × List Char)
  | [] => .error .unterminatedString
  | '"' :: rest => .ok ([], rest)
  | ['\\'] => .error .danglingEscape
  | '\\' :: c :: rest => prepend (stringEscape c) (stringBody rest)
  | c :: rest => prepend [c] (stringBody rest)

/-- Whether a character ends the atom before it. -/
def endsAtom (c : Char) : Bool := isOpening c || isClosing c || c = '"' || c = ';' || isSpace c

/-- Reads an atom to its end. -/
def atomBody : List Char → Except Fault (List Char × List Char)
  | [] => .ok ([], [])
  | ['\\'] => .error .danglingEscape
  | '\\' :: c :: rest => prepend (atomEscape c) (atomBody rest)
  | c :: rest => if endsAtom c then .ok ([], c :: rest) else prepend [c] (atomBody rest)

/-- What an atom denotes: the empty list, truth, a number or a symbol. An integer of too many digits is read as
a floating-point number. -/
def ofAtom (name : List Char) : SExpr :=
  if name = ['n', 'i', 'l'] then .list []
  else if name = ['t'] then .bool true
  else
    match Number.integer name, Number.double? name with
    | .ok n, _ => .int n
    | .error _, some x => .float x
    | .error _, none => .symbol (String.ofList name)

/-- What follows a comment. -/
def skipComment (cs : List Char) : List Char := (cs.dropWhile (· ≠ '\n')).drop 1

/-! ### Expressions -/

/-- Reads expressions up to a closing bracket or the end, and leaves that bracket. `total` is the length of the
whole text. Each call takes a character, so that the length of the text is fuel enough. -/
def forms (total : Nat) : (fuel : Nat) → List Char → Except Fault (List SExpr × List Char)
  | 0, cs => .ok ([], cs)
  | fuel + 1, cs =>
    match cs with
    | [] => .ok ([], [])
    | c :: rest =>
      if c = '"' then do
        let (s, rest) ← stringBody rest
        let (more, rest) ← forms total fuel rest
        return (.string (String.ofList s) :: more, rest)
      else if isSpace c then forms total fuel rest
      else if isOpening c then do
        let (elements, rest) ← forms total fuel rest
        match rest with
        | d :: rest =>
          if d = closing c then
            let (more, rest) ← forms total fuel rest
            return (bracketed c elements :: more, rest)
          else .error (.unclosed (closing c) (some d))
        | [] => .error (.unclosed (closing c) none)
      else if c = '\'' then do
        -- The quote takes all expressions up to the closing bracket, and quotes the first of them.
        match ← forms total fuel rest with
        | ([], _) => .error (.nothingQuoted (total - cs.length))
        | (e :: more, rest) => return (.quoted e :: more, rest)
      else if c = ';' then forms total fuel (skipComment rest)
      else if isClosing c then .ok ([], cs)
      else do
        let (name, rest) ← atomBody cs
        let (more, rest) ← forms total fuel rest
        return (ofAtom name :: more, rest)

/-- Reads a text that holds one expression. -/
def read (cs : List Char) : Except Fault SExpr := do
  match ← forms cs.length (cs.length + 1) cs with
  | ([e], []) => return e
  | (_, []) => .error .notSingle
  | (_, rest) => .error (.extraClosing (String.ofList rest))

/-- Reads a text of several expressions as the list of them. It is put in brackets, on lines of its own so that a
comment at its end stays within it. -/
def readAll (cs : List Char) : Except Fault SExpr := read ('(' :: cs ++ ['\n', ')'])

end ContractLint.SExpr
