import ContractLint.Text.Alphanumeric
import ContractLint.Text.Blank
import ContractLint.Value.Basic

/-! Callee paths. A path is normalised by dropping the generic arguments of its segments, together with the `::`
in front of an argument list, while `<impl ..>` segments are kept. -/

namespace ContractLint.Path

/-- The length of a bracketed text up to the `>` that brings `depth` to zero, or of all of it if there is none.
A `>` after `-` is an arrow and closes nothing. -/
def closeLength (depth : Nat) (previous : CodePoint) : List CodePoint → Nat
  | [] => 0
  | c :: cs =>
    if c = '<' then closeLength (depth + 1) c cs + 1
    else if c = '>' ∧ previous ≠ '-' then
      if depth ≤ 1 then 1 else closeLength (depth - 1) c cs + 1
    else closeLength depth c cs + 1

/-- The length of the bracketed text at the front, which begins with `<`. -/
def bracketLength (cs : List CodePoint) : Nat := closeLength 0 ' ' cs

/-- Whether what follows `<` makes it an `<impl ..>` segment. -/
def isImpl (cs : List CodePoint) : Bool := (['i', 'm', 'p', 'l', ' '] : List CodePoint).isPrefixOf cs

/-- Whether an argument list may follow the given piece directly. -/
def endsName (piece : List CodePoint) : Bool := Text.allAlphanumeric piece || piece == [.char '_']

/-- Walks along a path. `pieces` is what has been kept so far, the last piece first; a piece is a code point or an
`<impl ..>` segment. The next `pending` code points belong to a bracketed text that has been dealt with. -/
def walk (pieces : List (List CodePoint)) (pending : Nat) : List CodePoint → List (List CodePoint)
  | [] => pieces
  | c :: cs =>
    match pending with
    | n + 1 => walk pieces n cs
    | 0 =>
      if c = '<' then
        if isImpl cs then walk ((c :: cs).take (bracketLength (c :: cs)) :: pieces) (bracketLength (c :: cs) - 1) cs
        else
          match pieces with
          | [.char ':'] :: [.char ':'] :: front => walk front (bracketLength (c :: cs) - 1) cs
          | piece :: _ =>
            if endsName piece then walk pieces (bracketLength (c :: cs) - 1) cs else walk ([c] :: pieces) 0 cs
          | [] => walk ([c] :: pieces) 0 cs
      else walk ([c] :: pieces) 0 cs

/-- The code points of a normalised path. -/
def normalizePoints (cs : List CodePoint) : List CodePoint := Text.trim (walk [] 0 cs).reverse.flatten

/-- The path without generic arguments and surrounding blanks. -/
def normalize (path : Text) : Text := ⟨normalizePoints path.points⟩

theorem closeLength_le (depth : Nat) (previous : CodePoint) (cs : List CodePoint) :
    closeLength depth previous cs ≤ cs.length := by
  induction cs generalizing depth previous with
  | nil => simp [closeLength]
  | cons c cs ih =>
    have up := ih (depth + 1) c
    have down := ih (depth - 1) c
    have same := ih depth c
    simp only [closeLength, List.length_cons]
    split
    · omega
    · split
      · split <;> omega
      · omega

theorem bracketLength_pos (c : CodePoint) (cs : List CodePoint) : 0 < bracketLength (c :: cs) := by
  unfold bracketLength closeLength
  split
  · omega
  · split
    · split <;> omega
    · omega

theorem walk_drop (pieces : List (List CodePoint)) (pending : Nat) (cs : List CodePoint) :
    walk pieces pending cs = walk pieces 0 (cs.drop pending) := by
  induction cs generalizing pending with
  | nil => simp [walk]
  | cons c cs ih =>
    cases pending with
    | zero => rfl
    | succ n => rw [walk, ih]; rfl

/-! ### Paths that are not text -/

end ContractLint.Path

namespace ContractLint

/-- Why a dynamic value is no path. -/
inductive PathError where
  | noLength (shape : Shape)
  | bracketInArray
  | notText (index : Nat) (shape : Shape)
  | keyed
  deriving DecidableEq, Repr

def PathError.message : PathError → String
  | .noLength shape => "object of type '" ++ shape.name ++ "' has no len()"
  | .bracketInArray => "'list' object has no attribute 'startswith'"
  | .notText index shape =>
    "sequence item " ++ toString index ++ ": expected str instance, " ++ shape.name ++ " found"
  | .keyed => "0"

namespace Path

/-- Whether a value is the text `<`. -/
def isBracket (v : Value) : Bool := v.string? == some "<"

/-- The joined texts of an array, counted from `index`. -/
def joinTexts : (index : Nat) → List Value → Except PathError Text
  | _, [] => .ok {}
  | index, v :: vs =>
    match v with
    | .string s => (joinTexts (index + 1) vs).map (s ++ ·)
    | v => .error (.notText index v.shape)

/-- The normalised path of a dynamic value. An array is a path in pieces, none of which may open a bracket. -/
def ofValue : Value → Except PathError Text
  | .string s => .ok (normalize s)
  | .array vs =>
    if vs.any isBracket then .error .bracketInArray
    else (joinTexts 0 vs).map fun t => ⟨Text.trim t.points⟩
  | .object [] => .ok {}
  | .object _ => .error .keyed
  | v => .error (.noLength v.shape)

@[simp] theorem ofValue_string (t : Text) : ofValue (.string t) = .ok (normalize t) := rfl

end Path

end ContractLint
