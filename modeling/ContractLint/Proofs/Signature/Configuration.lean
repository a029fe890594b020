import ContractLint.Proofs.Outcome
import ContractLint.Proofs.Signature.Stability
import ContractLint.Signature.Config

/-! Which configurations are accepted, and what they describe. Clauses are judged by their form alone; a configuration
is one form of such clauses, of which only the first may extend the standard tables. Everything else is refused under
the name of its source. -/

namespace ContractLint

theorem TableName.text_of_ofText? {s : String} {n : TableName} (h : ofText? s = some n) : n.text = s := by
  simpa using List.find?_some h

namespace Signature

open Outcome

/-! ### What a clause says -/

/-- What a clause says by its form. The head may be a symbol or a string, the paths of a table are strings that are not
blank. -/
inductive Says : SExpr → Clause → Prop
  | extension {head : SExpr} {tail : List SExpr} (hhead : head.plain = .string "extends")
      (htail : tail.map SExpr.plain = [.string "default"]) : Says (.list (head :: tail)) .extendsDefault
  | additions {head : SExpr} {n : TableName} (hhead : head.plain = .string n.text) {paths : List String}
      (hpaths : ∀ path ∈ paths, ∃ c ∈ path.toList, Text.isBlank c = false) :
      Says (.list (head :: paths.map .string)) (.additions n paths)

theorem word?_eq_some_iff {e : SExpr} {s : String} : e.word? = some s ↔ e.plain = .string s := by
  cases e <;> simp [SExpr.word?, SExpr.plain]

theorem isPath_iff {s : String} : isPath s = true ↔ ∃ c ∈ s.toList, Text.isBlank c = false := by
  rw [isPath, Bool.not_eq_true', List.isEmpty_eq_false_iff, ne_eq, Text.trim_eq_nil_iff]
  simp [Text.ofString, Text.ofChars, CodePoint.isBlank, CodePoint.char?]

theorem entry_eq_ok {table : String} {e : SExpr} {s : String} :
    entry table e = .ok s ↔ e = .string s ∧ isPath s = true := by
  cases e with
  | string t =>
    by_cases ht : isPath t = true
    · simp only [entry, ht, if_true, Except.ok.injEq, SExpr.string.injEq]
      constructor
      · rintro rfl
        exact ⟨rfl, ht⟩
      · exact And.left
    · simp only [entry, ht]
      refine iff_of_false (by simp) ?_
      rintro ⟨h, hs⟩
      cases h
      exact ht hs
  | _ => simp [entry]

theorem mapM_entry_eq_ok {table : String} {es : List SExpr} {paths : List String} :
    es.mapM (entry table) = .ok paths ↔ es = paths.map .string ∧ ∀ path ∈ paths, isPath path = true := by
  rw [mapM_eq_ok]
  constructor
  · intro h
    induction h with
    | nil => simp
    | cons hentry _ ih =>
      obtain ⟨rfl, hpath⟩ := entry_eq_ok.1 hentry
      obtain ⟨rfl, hpaths⟩ := ih
      exact ⟨rfl, List.forall_mem_cons.2 ⟨hpath, hpaths⟩⟩
  · rintro ⟨rfl, hpaths⟩
    rw [List.forall₂_map_left_iff, List.forall₂_same]
    exact fun path hpath => entry_eq_ok.2 ⟨rfl, hpaths path hpath⟩

theorem isDefault_iff {es : List SExpr} : isDefault es = true ↔ es.map SExpr.plain = [.string "default"] := by
  match es with
  | [] => simp [isDefault]
  | [e] => simp [isDefault, word?_eq_some_iff]
  | _ :: _ :: _ => simp [isDefault]

/-- The clause that is read is the one that the expression says, and the place decides only on the extension. -/
theorem clause_eq_ok {first : Bool} {e : SExpr} {c : Clause} :
    clause first e = .ok c ↔ Says e c ∧ (c = .extendsDefault → first = true) := by
  constructor
  · intro h
    match e with
    | .list (head :: tail) =>
      simp only [clause] at h
      split_ifs at h with hhead htail
      · cases h
        rw [Bool.and_eq_true] at htail
        exact ⟨.extension (word?_eq_some_iff.1 hhead) (isDefault_iff.1 htail.2), fun _ => htail.1⟩
      · split at h
        next n hn =>
          obtain ⟨s, hs, hsn⟩ := Option.bind_eq_some_iff.1 hn
          obtain ⟨paths, hpaths, hc⟩ := bind_eq_ok.1 h
          cases hc
          obtain ⟨rfl, hpath⟩ := mapM_entry_eq_ok.1 hpaths
          rw [← TableName.text_of_ofText? hsn] at hs
          exact ⟨.additions (word?_eq_some_iff.1 hs) fun path hmem => isPath_iff.1 (hpath path hmem), by simp⟩
        next => cases h
  · rintro ⟨hform, hfirst⟩
    cases hform with
    | extension hhead htail =>
      simp only [clause]
      rw [if_pos (word?_eq_some_iff.2 hhead), hfirst rfl, isDefault_iff.2 htail]
      rfl
    | @additions head n hhead paths hpaths =>
      have hword := word?_eq_some_iff.2 hhead
      -- no table has the name of the extension, so the two readings of a head cannot meet
      have hne : head.word? ≠ some "extends" := by
        rw [hword]
        cases n <;> decide
      simp only [clause]
      rw [if_neg hne, hword, Option.bind_some, TableName.ofText?_text]
      exact bind_eq_ok.2 ⟨paths, mapM_entry_eq_ok.2 ⟨rfl, fun path hmem => isPath_iff.2 (hpaths path hmem)⟩, rfl⟩

theorem clause_first_eq_ok {e : SExpr} {c : Clause} : clause true e = .ok c ↔ Says e c := by
  simp [clause_eq_ok]

theorem Says.unique {e : SExpr} {c d : Clause} (hc : Says e c) (hd : Says e d) : c = d :=
  Except.ok.inj ((clause_first_eq_ok.2 hc).symm.trans (clause_first_eq_ok.2 hd))

theorem clause_later_eq_ok {e : SExpr} {c : Clause} :
    clause false e = .ok c ↔ ¬ Says e .extendsDefault ∧ clause true e = .ok c := by
  rw [clause_eq_ok, clause_first_eq_ok]
  constructor
  · rintro ⟨hform, hc⟩
    exact ⟨fun hext => Bool.false_ne_true (hc (hform.unique hext)), hform⟩
  · rintro ⟨hext, hform⟩
    exact ⟨hform, fun hc => absurd (hc ▸ hform) hext⟩

theorem clauses_eq_ok {es : List SExpr} {cs : List Clause} :
    clauses es = .ok cs ↔ (∀ e ∈ es.tail, ¬ Says e .extendsDefault) ∧ es.mapM (clause true) = .ok cs := by
  cases es with
  | nil => simp [clauses]
  | cons e es =>
    -- the clauses behind the first are read by the same rule, less the extension
    have hlater (ds : List Clause) : es.mapM (clause false) = .ok ds ↔
        (∀ e ∈ es, ¬ Says e .extendsDefault) ∧ es.mapM (clause true) = .ok ds := by
      simp only [mapM_eq_ok, clause_later_eq_ok, List.forall₂_and_left]
    simp only [clauses, List.mapM_cons, bind_eq_ok, hlater, List.tail_cons]
    constructor
    · rintro ⟨c, hc, ds, ⟨hext, hds⟩, h⟩
      exact ⟨hext, c, hc, ds, hds, h⟩
    · rintro ⟨hext, c, hc, ds, hds, h⟩
      exact ⟨c, hc, ds, ⟨hext, hds⟩, h⟩

/-! ### The accepted configurations -/

/-- A single form under the word `signatures` whose clauses all say something, of which the first alone may be the
extension. -/
structure IsConfiguration (e : SExpr) (es : List SExpr) : Prop where
  form : ∃ head : SExpr, e = .list [.list (head :: es)] ∧ head.plain = .string "signatures"
  clauses : ∀ clause ∈ es, ∃ c, Says clause c
  first : ∀ clause ∈ es.tail, ¬ Says clause .extendsDefault

theorem ofForms_eq_ok {e : SExpr} {t : Tables} :
    ofForms e = .ok t ↔ ∃ es cs, IsConfiguration e es ∧ es.mapM (clause true) = .ok cs ∧ t = tablesOf cs := by
  constructor
  · intro h
    unfold ofForms at h
    split at h
    next head es =>
      split_ifs at h with hhead
      obtain ⟨cs, hcs, ht⟩ := bind_eq_ok.1 h
      cases ht
      obtain ⟨hfirst, hall⟩ := clauses_eq_ok.1 hcs
      have hform : ∀ e ∈ es, ∃ c, Says e c := by
        simpa only [clause_first_eq_ok] using exists_mapM_ok.1 ⟨cs, hall⟩
      exact ⟨es, cs, ⟨⟨head, rfl, word?_eq_some_iff.1 hhead⟩, hform, hfirst⟩, hall, rfl⟩
    next => cases h
    next => cases h
  · rintro ⟨es, cs, ⟨⟨head, rfl, hhead⟩, -, hfirst⟩, hall, rfl⟩
    simp only [ofForms]
    rw [if_pos (word?_eq_some_iff.2 hhead)]
    exact bind_eq_ok.2 ⟨cs, clauses_eq_ok.2 ⟨hfirst, hall⟩, rfl⟩

theorem ofRead_eq_ok {read : Except SExpr.Fault SExpr} {source : Value} {t : Tables} :
    ofRead read source = .ok t ↔ ∃ e, read = .ok e ∧ ofForms e = .ok t := by
  cases read with
  | error fault => simp [ofRead]
  | ok e => simp [ofRead, mapError_eq_ok]

end Signature

end ContractLint
