import ContractLint.Proofs.Analysis.Flags

/-! What the flag detectors see of a function: the instructions that refer to something, each as its span and its paths.
Their findings, and the error if there is one, are the same for any two functions of which they see the same. -/

namespace ContractLint

open Outcome

/-- The span and the paths of an instruction that refers to something. -/
def Item.use? (item : Item) : Option (Span × List Value) :=
  if item.paths.isEmpty then none else some (item.span, item.paths)

/-- The instructions of a function that refer to something, as the flags see them. -/
def Body.uses (body : Body) : List (Span × List Value) := body.items.filterMap Item.use?

theorem Body.uses_eq_filterMap (body : Body) : body.uses = body.visited.filterMap fun x => x.2.use? := by
  rw [uses, ← map_snd_visited, List.filterMap_map]
  rfl

/-- Normalises the paths of an instruction. -/
def readUse (use : Span × List Value) : Except PathError (Span × List Text) := do
  return (use.1, ← use.2.mapM Path.ofValue)

theorem ne_nil_of_mapM {vs : List Value} {paths : List Text} (h : vs.mapM Path.ofValue = .ok paths)
    (hvs : vs ≠ []) : paths ≠ [] := by
  intro hpaths
  rw [hpaths, mapM_eq_ok, List.forall₂_nil_right_iff] at h
  exact hvs h

/-- Of the references in a function, the flags see those that have paths. -/
theorem mapM_readUse (items : List Item) :
    (items.filterMap Item.use?).mapM readUse =
      (items.mapM fun item => readUse (item.span, item.paths)).map (List.filter fun r => !r.2.isEmpty) := by
  induction items with
  | nil => rfl
  | cons item items ih =>
    rw [List.mapM_cons, List.filterMap_cons]
    by_cases hpaths : item.paths = []
    · simp only [Item.use?, hpaths, List.isEmpty_nil, if_true, ih]
      cases items.mapM fun item => readUse (item.span, item.paths) <;> rfl
    · have huse : item.use? = some (item.span, item.paths) := if_neg (mt List.isEmpty_iff.1 hpaths)
      simp only [huse, List.mapM_cons, ih]
      cases hread : readUse (item.span, item.paths) with
      | error e => rfl
      | ok r =>
        have hr : r.2.isEmpty = false := by
          obtain ⟨paths, hnormal, hr⟩ := bind_eq_ok.1 hread
          obtain rfl := pure_eq_ok.1 hr
          simpa using ne_nil_of_mapM hnormal hpaths
        cases items.mapM fun item => readUse (item.span, item.paths) with
        | error e => rfl
        | ok references => simp [bind, Except.bind, pure, Except.pure, Except.map, hr]

theorem Body.mapM_uses (body : Body) :
    body.uses.mapM readUse = body.references.map (List.filter fun r => !r.2.isEmpty) :=
  mapM_readUse body.items

/-- An instruction without paths does not refer to a table. -/
theorem Table.referencesIn_filter (t : Table) (references : List (Span × List Text)) :
    t.referencesIn (references.filter fun r => !r.2.isEmpty) = t.referencesIn references := by
  rw [referencesIn, referencesIn, List.filter_filter]
  congr 2
  funext r
  cases r.2 <;> simp

theorem Table.contains_congr {t t' : Table} (h : ∀ path, path ∈ t.entries ↔ path ∈ t'.entries) :
    t.entries.contains = t'.entries.contains := by
  funext path
  rw [Bool.eq_iff_iff, List.contains_iff_mem, List.contains_iff_mem, h]

/-- Tables with the same entries are referred to from the same instructions. -/
theorem Table.referencesIn_congr {t t' : Table} (h : ∀ path, path ∈ t.entries ↔ path ∈ t'.entries)
    (references : List (Span × List Text)) : t.referencesIn references = t'.referencesIn references := by
  rw [referencesIn, referencesIn, contains_congr h]

namespace Checker

theorem flagFinding_congr {c c' : Checker} {f : FlagKind}
    (h : ∀ path, path ∈ (c.tables.table f.table).entries ↔ path ∈ (c'.tables.table f.table).entries)
    (references : List (Span × List Text)) : c.flagFinding references f = c'.flagFinding references f := by
  rw [flagFinding, flagFinding, Table.referencesIn_congr h]

theorem flagFinding_filter (c : Checker) (references : List (Span × List Text)) :
    c.flagFinding (references.filter fun r => !r.2.isEmpty) = c.flagFinding references := by
  funext f
  rw [flagFinding, flagFinding, Table.referencesIn_filter]

theorem flagFindings_eq (c : Checker) (body : Body) :
    c.flagFindings body =
      if c.flags.isEmpty then .ok []
      else (body.uses.mapM readUse).map fun references => c.flags.map (c.flagFinding references) := by
  rw [flagFindings, body.mapM_uses]
  split_ifs
  · rfl
  · cases body.references with
    | error e => rfl
    | ok references => simp only [Except.map, flagFinding_filter]

/-- The flags give the same findings, or end in the same error, on functions of which they see the same. -/
theorem flagFindings_congr (c : Checker) {body body' : Body} (h : body.uses = body'.uses) :
    c.flagFindings body = c.flagFindings body' := by
  rw [flagFindings_eq, flagFindings_eq, h]

/-- Two functions with one name get the same report if reentrancy is judged the same in both and the flags see the
same of them. -/
theorem visit_congr (c : Checker) {body body' : Body} (hname : body.name = body'.name)
    (hreentrancy : (Reentrancy.observeAll c.tables {} body.observations).finding c.tables =
      (Reentrancy.observeAll c.tables {} body'.observations).finding c.tables)
    (huses : body.uses = body'.uses) : c.visit body = c.visit body' := by
  rw [visit, visit, reentrancyFindings, reentrancyFindings, hname, hreentrancy, c.flagFindings_congr huses]

end Checker

end ContractLint
