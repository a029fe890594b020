import ContractLint.Analysis.Results
import ContractLint.Proofs.Outcome

/-! When an analysis gives results. The only thing that can go wrong is a constant whose path is no path, and that is
noticed only if a detector looks at the paths that instructions refer to. -/

namespace ContractLint

open Outcome

/-- The values that are read as a path: a text, or texts in an array none of which opens a bracket by itself. The
empty object counts as the empty path. -/
def Value.IsPath : Value → Prop
  | .string _ => True
  | .array pieces => (∀ v ∈ pieces, ∃ s, v = .string s) ∧ .ofString "<" ∉ pieces
  | .object fields => fields = []
  | _ => False

namespace Path

theorem exists_joinTexts_ok (index : Nat) (vs : List Value) :
    (∃ cs, joinTexts index vs = .ok cs) ↔ ∀ v ∈ vs, ∃ s, v = .string s := by
  induction vs generalizing index with
  | nil => simp [joinTexts]
  | cons v vs ih =>
    rw [List.forall_mem_cons, ← ih (index + 1)]
    cases v <;> simp [joinTexts, map_eq_ok]

theorem isBracket_iff {v : Value} : isBracket v = true ↔ v = .ofString "<" := by
  rw [isBracket, beq_iff_eq, Value.string?_eq_some_iff]

theorem exists_ofValue_ok (v : Value) : (∃ path, ofValue v = .ok path) ↔ v.IsPath := by
  cases v with
  | null => simp [ofValue, Value.IsPath]
  | bool b => simp [ofValue, Value.IsPath]
  | int n => simp [ofValue, Value.IsPath]
  | float x => simp [ofValue, Value.IsPath]
  | string s => simp [ofValue, Value.IsPath]
  | object fields => cases fields <;> simp [ofValue, Value.IsPath]
  | array vs =>
    have hany : vs.any isBracket = true ↔ .ofString "<" ∈ vs := by
      simp [List.any_eq_true, isBracket_iff]
    have hjoin := exists_joinTexts_ok 0 vs
    by_cases h : vs.any isBracket = true
    · simp [ofValue, Value.IsPath, h, hany.1 h]
    · rw [ofValue, if_neg h, exists_map_ok, hjoin, Value.IsPath]
      exact ⟨fun hv => ⟨hv, mt hany.2 h⟩, And.left⟩

end Path

/-- The path of a constant, as it is given. -/
def Operand.constantPath? : Operand → Option Value
  | .constant _ path => some path
  | _ => none

/-- The paths of the constants that an instruction reads. -/
def Item.constantPaths (item : Item) : List Value := item.operands.filterMap Operand.constantPath?

/-- The paths of the constants in a function. -/
def Body.constantPaths (body : Body) : List Value := body.items.flatMap Item.constantPaths

theorem Operand.path?_eq_some_iff {o : Operand} {path : Value} :
    o.path? = some path ↔ o.constantPath? = some path ∧ path.truthy = true := by
  cases o with
  | copy place => simp [path?, constantPath?]
  | move place => simp [path?, constantPath?]
  | constant value p =>
    by_cases h : p.truthy = true
    · simp only [path?, h, if_true, constantPath?, Option.some.injEq]
      exact ⟨fun he => ⟨he, he ▸ h⟩, And.left⟩
    · simp only [path?, h, constantPath?, Option.some.injEq]
      exact ⟨fun he => absurd he (by simp), fun he => absurd he.2 (he.1 ▸ h)⟩

theorem Item.exists_references_ok (item : Item) :
    (∃ paths, item.references = .ok paths) ↔ ∀ path ∈ item.constantPaths, path.truthy = true → path.IsPath := by
  rw [references, exists_mapM_ok]
  simp only [paths, List.mem_append, List.mem_map, constantPaths, List.mem_filterMap, Path.exists_ofValue_ok,
    Operand.path?_eq_some_iff]
  constructor
  · rintro h path ⟨o, ho, hp⟩ ht
    exact h path (.inr ⟨o, ho, hp, ht⟩)
  · rintro h path (⟨callee, _, rfl⟩ | ⟨o, ho, hp, ht⟩)
    · -- the callee of a call is text
      exact trivial
    · exact h path ⟨o, ho, hp⟩ ht

theorem Body.exists_references_ok (body : Body) :
    (∃ references, body.references = .ok references) ↔
      ∀ path ∈ body.constantPaths, path.truthy = true → path.IsPath := by
  rw [references, exists_mapM_ok]
  simp only [exists_bind_pure_ok, Item.exists_references_ok, constantPaths, List.mem_flatMap]
  constructor
  · rintro h path ⟨item, hi, hp⟩
    exact h item hi path hp
  · intro h item hi path hp
    exact h path ⟨item, hi, hp⟩

namespace Checker

variable (c : Checker)

theorem flags_eq_nil_iff : c.flags = [] ↔ ∀ f : FlagKind, f.detector ∉ c.enabled := by
  simp only [flags, List.filter_eq_nil_iff, decide_eq_true_eq]
  constructor
  · intro h f
    exact h f (by cases f <;> decide)
  · intro h f _
    exact h f

theorem exists_flagFindings_ok (body : Body) :
    (∃ findings, c.flagFindings body = .ok findings) ↔
      (∀ f : FlagKind, f.detector ∉ c.enabled) ∨
        ∀ path ∈ body.constantPaths, path.truthy = true → path.IsPath := by
  rw [← flags_eq_nil_iff, ← Body.exists_references_ok]
  by_cases h : c.flags = []
  · simp [flagFindings, h]
  · simp only [flagFindings, List.isEmpty_iff, h, if_false, exists_map_ok, false_or]

theorem exists_visit_ok (body : Body) :
    (∃ report, c.visit body = .ok report) ↔
      (∀ f : FlagKind, f.detector ∉ c.enabled) ∨
        ∀ path ∈ body.constantPaths, path.truthy = true → path.IsPath := by
  rw [← exists_flagFindings_ok]
  exact exists_bind_pure_ok

theorem foldlM_visit (functions : List Body) (r : Results) :
    functions.foldlM (fun r body => do return r.addReport (← c.visit body)) r =
      (functions.mapM c.visit).map fun reports => reports.foldl Results.addReport r := by
  induction functions generalizing r with
  | nil => rfl
  | cons body functions ih =>
    rw [List.foldlM_cons, List.mapM_cons]
    cases c.visit body with
    | error e => rfl
    | ok report =>
      refine (ih (r.addReport report)).trans ?_
      cases functions.mapM c.visit <;> rfl

/-- The results of a run are put together from the reports of its functions. -/
theorem run_eq (functions : List Body) :
    c.run functions = (functions.mapM c.visit).map fun reports => reports.foldl Results.addReport {} :=
  c.foldlM_visit functions {}

theorem exists_run_ok (functions : List Body) :
    (∃ results, c.run functions = .ok results) ↔
      (∀ f : FlagKind, f.detector ∉ c.enabled) ∨
        ∀ body ∈ functions, ∀ path ∈ body.constantPaths, path.truthy = true → path.IsPath := by
  have hrun : (∃ results, c.run functions = .ok results) ↔ ∀ body ∈ functions, ∃ report, c.visit body = .ok report := by
    rw [← exists_mapM_ok, run_eq, exists_map_ok]
  simp only [hrun, exists_visit_ok]
  by_cases h : ∀ f : FlagKind, f.detector ∉ c.enabled
  · simp only [h, not_false_eq_true, implies_true, true_or]
  · simp only [h, false_or]

end Checker

end ContractLint
