/-! Line ends. A text file may end its lines by a line feed, a carriage return or both; readers see line
feeds only. -/

namespace ContractLint.Text

/-- Writes every line end as one line feed. -/
def unifyLineEnds : List Char → List Char
  | [] => []
  | '\r' :: '\n' :: cs => '\n' :: unifyLineEnds cs
  | c :: cs => (if c = '\r' then '\n' else c) :: unifyLineEnds cs

/-- The line and the column, both from one, of the character after `before`. -/
def lineColumn (before : List Char) : Nat × Nat :=
  (before.count '\n' + 1, (before.reverse.takeWhile (· ≠ '\n')).length + 1)

end ContractLint.Text
