import ContractLint.Dump.Context
import ContractLint.Proofs.Outcome

/-! The fields of a dump. A required field is there or the dump is malformed, so the only failures that stay without a
location come from the conversion of what a field holds. -/

namespace ContractLint

open Outcome

theorem Value.parts_eq_ok {v : Value} {xs : List Value} : v.parts = .ok xs ↔ v.parts? = some xs := by
  unfold parts
  cases v.parts? <;> simp

namespace Dump

/-- The kind that an object names, if it is a text. -/
def kind? (v : Value) : Option String := (v.get? "kind").bind Value.string?

theorem kind?_of_get? {v kind : Value} (h : v.get? "kind" = some kind) : kind? v = kind.string? := by
  rw [kind?, h, Option.bind_some]

theorem convert_eq_ok {α : Type} {r : Except ConversionError α} {a : α} : convert r = .ok a ↔ r = .ok a :=
  mapError_eq_ok

theorem convert_eq_error {α : Type} {r : Except ConversionError α} {e : Failure} :
    convert r = .error e ↔ ∃ e', r = .error e' ∧ Failure.conversion e' = e :=
  mapError_eq_error

namespace Context

variable {c : Context} {what : Text} {key : String} {v : Value}

@[simp] theorem fail_ne_ok {α : Type} {problem : Problem} {a : α} : c.fail problem ≠ .ok a := by
  simp [fail]

@[simp] theorem require_eq_ok {x : Value} : c.require what v key = .ok x ↔ v.get? key = some x := by
  cases v with
  | object fields => cases h : Assoc.get? fields key <;> simp [require, Value.get?, fail, h]
  | _ => simp [require, Value.get?, fail]

theorem require_eq_error {e : Failure} :
    c.require what v key = .error e → ∃ problem, e = .malformed ⟨problem, c.location⟩ := by
  intro h
  cases v with
  | object fields =>
    cases hk : Assoc.get? fields key with
    | some x => simp [require, hk] at h
    | none =>
      simp only [require, hk, fail, Except.error.injEq] at h
      exact ⟨_, h.symm⟩
  | _ =>
    simp only [require, fail, Except.error.injEq] at h
    exact ⟨_, h.symm⟩

end Context

theorem listField_eq_ok {v : Value} {key : String} {xs : List Value} :
    listField v key = .ok xs ↔ ((v.get? key).getD (.array [])).parts? = some xs := by
  rw [listField, convert_eq_ok, Value.parts_eq_ok]

theorem given?_eq_some_iff {v x : Value} {key : String} :
    v.given? key = some x ↔ v.get? key = some x ∧ x ≠ .null := by
  unfold Value.given?
  split
  · next h => simp [h, eq_comm]
  · next h => exact ⟨fun hx => ⟨hx, fun hn => h (hn ▸ hx)⟩, And.left⟩

end Dump

end ContractLint
