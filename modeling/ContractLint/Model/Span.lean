import ContractLint.Model.RawSpan
import ContractLint.Value.Equality

/-! Ranges of contract source. A span counts as empty when its two byte positions and its line are zero; its
file and column do not matter for that. -/

namespace ContractLint

/-- A range in a source file by byte positions, with the line and column of its start. The file is whatever the
dump gave for it. -/
structure Span where
  file : Value := .ofString ""
  lo : Int := 0
  hi : Int := 0
  line : Int := 0
  column : Int := 0
  deriving DecidableEq, Repr, Inhabited

namespace Span

/-- The span of nothing. -/
def empty : Span := {}

def isEmpty (s : Span) : Bool := s.lo == 0 && s.hi == 0 && s.line == 0

/-- The least span over both. An empty span adds nothing; line and column are those of the span that starts
first, and the file is the first one given. -/
def join (s t : Span) : Span :=
  if t.isEmpty then s
  else if s.isEmpty then t
  else
    let first := if s.lo ≤ t.lo then s else t
    { file := if s.file.truthy then s.file else t.file
      lo := min s.lo t.lo
      hi := max s.hi t.hi
      line := first.line
      column := first.column }

/-- The span with its positions as values. -/
def raw (s : Span) : RawSpan := ⟨s.file, .int s.lo, .int s.hi, .int s.line, .int s.column⟩

/-- File, line and, unless it is zero, column. -/
def text (s : Span) : Text := s.raw.text

theorem join_of_isEmpty_right {t : Span} (s : Span) (h : t.isEmpty) : s.join t = s := by
  simp [join, h]

theorem join_of_isEmpty_left {s : Span} (t : Span) (hs : s.isEmpty) (ht : t.isEmpty = false) :
    s.join t = t := by
  simp [join, hs, ht]

@[simp] theorem isEmpty_raw (s : Span) : s.raw.isEmpty = s.isEmpty := by
  simp [raw, RawSpan.isEmpty, isEmpty, Value.isZero, Value.alike_int, Bool.beq_eq_decide_eq]

/-- Spans with integer positions can always be joined. -/
theorem join_raw (s t : Span) : s.raw.join t.raw = .ok (s.join t).raw := by
  by_cases ht : t.isEmpty
  · simp [RawSpan.join, join, ht]
  by_cases hs : s.isEmpty
  · simp [RawSpan.join, join, ht, hs]
  rw [RawSpan.join, isEmpty_raw, isEmpty_raw, if_neg ht, if_neg hs, join, if_neg ht, if_neg hs]
  by_cases h : s.lo ≤ t.lo <;>
  · simp [h, raw, Value.lessOrEqual_int, Value.least_int, Value.greatest_int, bind, Except.bind, pure, Except.pure]
    rfl

end Span

end ContractLint
