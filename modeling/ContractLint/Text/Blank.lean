import ContractLint.Text.Basic
import ContractLint.Text.Range

/-! Blank characters and trimming. The wide class has the separators of every script and the information
separators; the narrow class has the six that may surround a number written in ASCII. -/

namespace ContractLint.Text

def blankRanges : List (Nat × Nat) :=
  [(0x9, 0xd), (0x1c, 0x20), (0x85, 0x85), (0xa0, 0xa0), (0x1680, 0x1680), (0x2000, 0x200a),
   (0x2028, 0x2029), (0x202f, 0x202f), (0x205f, 0x205f), (0x3000, 0x3000)]

/-- Whether `c` is a space, a line break or a separator. -/
def isBlank (c : Char) : Bool := inRanges blankRanges c

/-- Space, tab, line feed, vertical tab, form feed and carriage return. -/
def isAsciiBlank (c : Char) : Bool := c.toNat == 32 || (9 ≤ c.toNat && c.toNat ≤ 13)

/-- Drops the leading and trailing elements in the class `p`. -/
def trimBy {α : Type} (p : α → Bool) (cs : List α) : List α :=
  ((cs.dropWhile p).reverse.dropWhile p).reverse

end ContractLint.Text

namespace ContractLint

/-- No surrogate is blank. -/
def CodePoint.isBlank (p : CodePoint) : Bool := p.char?.any Text.isBlank

/-- Drops the blanks at both ends. -/
def Text.trim (ps : List CodePoint) : List CodePoint := trimBy CodePoint.isBlank ps

end ContractLint
