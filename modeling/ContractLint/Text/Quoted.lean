import ContractLint.Text.Basic
import ContractLint.Text.Printable

/-! Quoted text, as error messages show it. The quote is the apostrophe, or the double quote for a text that has
an apostrophe and no double quote; what is not printable is escaped, and so is a surrogate on its own. -/

namespace ContractLint.Text

/-- The last `width` hexadecimal digits of `n`, in lower case. -/
def hex : (width : Nat) → Nat → List Char
  | 0, _ => []
  | width + 1, n => hex width (n / 16) ++ [Nat.digitChar (n % 16)]

/-- The quote for a text. -/
def quoteFor (t : Text) : Char :=
  if t.chars.contains '\'' && !t.chars.contains '"' then '"' else '\''

/-- A character inside quotes. -/
def quotedChar (quote c : Char) : List Char :=
  if c = quote || c = '\\' then ['\\', c]
  else if c = '\n' then ['\\', 'n']
  else if c = '\r' then ['\\', 'r']
  else if c = '\t' then ['\\', 't']
  else if isPrintable c then [c]
  else if c.toNat < 0x100 then '\\' :: 'x' :: hex 2 c.toNat
  else if c.toNat < 0x10000 then '\\' :: 'u' :: hex 4 c.toNat
  else '\\' :: 'U' :: hex 8 c.toNat

/-- A code point inside quotes. -/
def quotedPoint (quote : Char) : CodePoint → List Char
  | .char c => quotedChar quote c
  | .surrogate offset => '\\' :: 'u' :: hex 4 (0xd800 + offset)

/-- The text in quotes. -/
def quoted (t : Text) : String :=
  String.ofList (quoteFor t :: t.points.flatMap (quotedPoint (quoteFor t)) ++ [quoteFor t])

/-- The first `limit` characters of the text in quotes. -/
def quotedTo (limit : Nat) (t : Text) : String := String.ofList (t.quoted.toList.take limit)

end ContractLint.Text
