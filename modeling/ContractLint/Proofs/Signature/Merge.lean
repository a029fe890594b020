import ContractLint.Proofs.Outcome
import ContractLint.Proofs.Signature.Stability
import ContractLint.Signature.Tables

/-! Merged tables. Merging normalises the entries of both tables once more. No entry ends in a blank, so doing it yet
again would change nothing. The merged tables are the union of the two just when normalising leads from entries to
entries and changes none that some path is normalised to. -/

namespace ContractLint

namespace Path

/-- Some path is normalised to the text. The pieces of an array are joined, which need not give such a text. -/
def IsNormalized (p : Text) : Prop := ∃ path, normalize path = p

theorem isBlank_of_getLast?_ofValue {v : Value} {p : Text} (h : ofValue v = .ok p) {c : CodePoint}
    (hc : p.points.getLast? = some c) : c.isBlank = false := by
  unfold ofValue at h
  split at h
  · cases h
    exact Text.isBlank_of_getLast?_trim hc
  · split at h
    · cases h
    · obtain ⟨joined, -, rfl⟩ := Outcome.map_eq_ok.1 h
      exact Text.isBlank_of_getLast?_trim hc
  · cases h
    cases hc
  · cases h
  · cases h

end Path

namespace Table

theorem covers_iff {t : Table} {callee : Text} : t.covers callee = true ↔ Path.normalize callee ∈ t.entries := by
  simp [covers]

/-- An entry is normalised once and for all by the next time. -/
theorem normalize_normalize_of_mem {t : Table} {e : Text} (he : e ∈ t.entries) :
    Path.normalize (Path.normalize e) = Path.normalize e := by
  obtain ⟨v, hv⟩ := t.given e he
  exact Path.normalize_of_settled
    (Path.settled_normalizePoints_of_last fun _ hc => Path.isBlank_of_getLast?_ofValue hv hc)

end Table

namespace Tables

/-- The entries that two families of tables have under a name. -/
def entriesOf (t u : Tables) (n : TableName) : List Text := (t.table n).entries ++ (u.table n).entries

theorem covers_merge {t u : Tables} {n : TableName} {callee : Text} :
    ((t.merge u).table n).covers callee = true ↔ ∃ e ∈ entriesOf t u n, Path.normalize e = Path.normalize callee := by
  rw [Table.covers_iff]
  exact Table.mem_ofPaths

theorem covers_or_covers {t u : Tables} {n : TableName} {callee : Text} :
    (t.table n).covers callee = true ∨ (u.table n).covers callee = true ↔ Path.normalize callee ∈ entriesOf t u n := by
  rw [Table.covers_iff, Table.covers_iff, entriesOf, List.mem_append]

theorem normalize_normalize_of_mem_entriesOf {t u : Tables} {n : TableName} {e : Text} (he : e ∈ entriesOf t u n) :
    Path.normalize (Path.normalize e) = Path.normalize e :=
  (List.mem_append.1 he).elim Table.normalize_normalize_of_mem Table.normalize_normalize_of_mem

/-- Two families of tables are merged to their union just when normalising leads from entries to entries and changes
none that a path is normalised to. It can change only such a one that ends in `<impl`. -/
theorem covers_merge_iff (t u : Tables) (n : TableName) :
    ((∀ callee, ((t.merge u).table n).covers callee = true ↔
        (t.table n).covers callee = true ∨ (u.table n).covers callee = true) ↔
      ∀ e ∈ entriesOf t u n,
        Path.normalize e ∈ entriesOf t u n ∧ (Path.IsNormalized e → Path.normalize e = e)) ∧
    ∀ e, Path.IsNormalized e → ¬ Path.bareImpl <:+ e.points → Path.normalize e = e := by
  refine ⟨⟨fun union e he => ⟨?_, ?_⟩, fun hstable callee => ?_⟩, ?_⟩
  · exact covers_or_covers.1 ((union e).1 (covers_merge.2 ⟨e, he, rfl⟩))
  · -- the tables cover its path, so it is what some entry is changed to
    rintro ⟨path, rfl⟩
    obtain ⟨e, he, hnorm⟩ := covers_merge.1 ((union path).2 (covers_or_covers.2 he))
    rw [← hnorm]
    exact normalize_normalize_of_mem_entriesOf he
  · rw [covers_merge, covers_or_covers]
    constructor
    · rintro ⟨e, he, hnorm⟩
      rw [← hnorm]
      exact (hstable e he).1
    · intro hmem
      exact ⟨_, hmem, (hstable _ hmem).2 ⟨callee, rfl⟩⟩
  · rintro _ ⟨path, rfl⟩ hend
    exact Path.normalize_normalize hend

theorem covers_merge_standard : ∀ callee,
    ((standard.merge (ofEntries [(.clockSource, "Slot::<T>::now")])).table .clockSource).covers callee = true ↔
    (standard.table .clockSource).covers callee = true ∨
      ((ofEntries [(.clockSource, "Slot::<T>::now")]).table .clockSource).covers callee = true := by
  have hstable : ∀ e ∈ entriesOf standard (ofEntries [(.clockSource, "Slot::<T>::now")]) .clockSource,
      Path.normalize e = e := by decide +kernel
  refine (covers_merge_iff standard _ .clockSource).1.2 fun e he => ?_
  rw [hstable e he]
  exact ⟨he, fun _ => rfl⟩

/-- The entry `a<impl` of a path that ends in a blank becomes `a` when its table is merged, even with empty tables. -/
theorem covers_merge_bareImpl :
    ((ofEntries [(.valueTransfer, "a<impl ")]).table .valueTransfer).covers "a<impl " = true ∧
    (((ofEntries [(.valueTransfer, "a<impl ")]).merge empty).table .valueTransfer).covers "a<impl " = false ∧
    ((ofEntries [(.valueTransfer, "a<impl ")]).table .valueTransfer).covers "a" = false ∧
    (((ofEntries [(.valueTransfer, "a<impl ")]).merge empty).table .valueTransfer).covers "a" = true := by
  decide +kernel

end Tables

end ContractLint
