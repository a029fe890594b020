import ContractLint.Value.Display
import ContractLint.Value.Order

/-! Spans as a caller gives them. Nothing is known of their fields, so two of them can be joined only if their
positions have an order. -/

namespace ContractLint

/-- A range of a source file whose positions need not be integers. -/
structure RawSpan where
  file : Value := .ofString ""
  lo : Value := .int 0
  hi : Value := .int 0
  line : Value := .int 0
  column : Value := .int 0
  deriving Repr, Inhabited

namespace RawSpan

def empty : RawSpan := {}

/-- Whether both positions and the line are worth zero. -/
def isEmpty (s : RawSpan) : Bool := s.lo.isZero && s.hi.isZero && s.line.isZero

/-- The least span over both. An empty span adds nothing; line and column are those of the span that starts
first, and the file is the first one given. -/
def join (s t : RawSpan) : Except OrderError RawSpan :=
  if t.isEmpty then .ok s
  else if s.isEmpty then .ok t
  else do
    let first := if ← s.lo.related .lessOrEqual t.lo then s else t
    return {
      file := if s.file.truthy then s.file else t.file
      lo := ← s.lo.least t.lo
      hi := ← s.hi.greatest t.hi
      line := first.line
      column := first.column }

/-- File, line and, unless it counts as false, column. -/
def text (s : RawSpan) : Text :=
  let place := s.file.display ++ ":" ++ s.line.display
  if s.column.truthy then place ++ ":" ++ s.column.display else place

end RawSpan

end ContractLint
