import ContractLint.Detector.Kind

/-! Flags: raised by the first recorded span, which they keep. -/

namespace ContractLint

/-- The span that raised the flag, if any did. `σ` is the type of spans. -/
structure Flag (σ : Type) where
  raisedAt : Option σ := none
  deriving DecidableEq, Repr

namespace Flag

variable {σ : Type}

def record (f : Flag σ) (span : σ) : Flag σ := ⟨f.raisedAt.or (some span)⟩

def check (f : Flag σ) : Bool := f.raisedAt.isSome

/-- The span of the flag, or `empty` if it is not raised. -/
def span (f : Flag σ) (empty : σ) : σ := f.raisedAt.getD empty

def finding (f : Flag Span) (kind : FlagKind) : Finding := ⟨kind.detector, f.check, f.span .empty⟩

/-- A flag keeps the first of the spans that are recorded. -/
theorem foldl_record (f : Flag σ) (spans : List σ) :
    (spans.foldl record f).raisedAt = f.raisedAt.or spans.head? := by
  induction spans generalizing f with
  | nil => simp
  | cons s rest ih => rw [List.foldl_cons, ih]; cases h : f.raisedAt <;> simp [record, h]

end Flag

end ContractLint
