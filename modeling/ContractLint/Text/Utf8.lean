import ContractLint.Text.Quoted

/-! Decoding of UTF-8. A refusal names the longest run of bytes that could still have begun a character, its
position and why it cannot be completed. -/

namespace ContractLint.Text.Utf8

inductive Reason where
  | invalidStart
  | invalidContinuation
  | unexpectedEnd
  deriving DecidableEq, Repr

/-- A refused run of bytes: the first byte, its position and the length of the run. -/
structure Fault where
  byte : UInt8
  position : Nat
  length : Nat
  reason : Reason
  deriving DecidableEq, Repr

def Reason.text : Reason → String
  | .invalidStart => "invalid start byte"
  | .invalidContinuation => "invalid continuation byte"
  | .unexpectedEnd => "unexpected end of data"

def Fault.text (f : Fault) : String :=
  let place :=
    if f.length = 1 then
      "byte 0x" ++ String.ofList (hex 2 f.byte.toNat) ++ " in position " ++ toString f.position
    else "bytes in position " ++ toString f.position ++ "-" ++ toString (f.position + f.length - 1)
  "'utf-8' codec can't decode " ++ place ++ ": " ++ f.reason.text

/-- How many bytes follow a first byte, and the range that the first of them is in. -/
def trailing? (b : UInt8) : Option (Nat × UInt8 × UInt8) :=
  if b < 0x80 then some (0, 0x80, 0xbf)
  else if b < 0xc2 then none
  else if b < 0xe0 then some (1, 0x80, 0xbf)
  else if b = 0xe0 then some (2, 0xa0, 0xbf)
  else if b = 0xed then some (2, 0x80, 0x9f)
  else if b < 0xf0 then some (2, 0x80, 0xbf)
  else if b = 0xf0 then some (3, 0x90, 0xbf)
  else if b < 0xf4 then some (3, 0x80, 0xbf)
  else if b = 0xf4 then some (3, 0x80, 0x8f)
  else none

/-- The bits of a first byte that belong to the code point. -/
def leadBits (b : UInt8) (more : Nat) : Nat :=
  match more with
  | 0 => b.toNat
  | 1 => b.toNat % 0x20
  | 2 => b.toNat % 0x10
  | _ => b.toNat % 0x08

/-- A character that is being decoded: its first byte and position, the bits so far, the bytes read and the
bytes still to come with the range of the next one. -/
structure Pending where
  first : UInt8
  position : Nat
  bits : Nat
  read : Nat
  more : Nat
  low : UInt8
  high : UInt8

/-- Decodes bytes from the given position on, `pending` being the character under way. -/
def run : (position : Nat) → Option Pending → List UInt8 → Except Fault (List Char)
  | _, none, [] => .ok []
  | _, some p, [] => .error ⟨p.first, p.position, p.read, .unexpectedEnd⟩
  | position, none, b :: bs =>
    match trailing? b with
    | none => .error ⟨b, position, 1, .invalidStart⟩
    | some (0, _, _) => (run (position + 1) none bs).map (Char.ofNat b.toNat :: ·)
    | some (more, low, high) =>
      run (position + 1) (some ⟨b, position, leadBits b more, 1, more, low, high⟩) bs
  | position, some p, b :: bs =>
    if p.low ≤ b && b ≤ p.high then
      let bits := p.bits * 64 + b.toNat % 64
      if p.more ≤ 1 then (run (position + 1) none bs).map (Char.ofNat bits :: ·)
      else run (position + 1) (some ⟨p.first, p.position, bits, p.read + 1, p.more - 1, 0x80, 0xbf⟩) bs
    else .error ⟨p.first, p.position, p.read, .invalidContinuation⟩

/-- The characters of a sequence of bytes. -/
def decode (bytes : List UInt8) : Except Fault (List Char) := run 0 none bytes

end ContractLint.Text.Utf8
