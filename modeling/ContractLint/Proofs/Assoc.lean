import Mathlib.Data.List.Induction
import Mathlib.Data.List.Nodup
import ContractLint.Assoc

/-! Association lists as maps. An entry that is written last is the one that is found, entries that are pushed under
a key form its list in the order in which they came, and sorting by key brings distinct keys into strictly increasing
order without losing an entry. -/

namespace ContractLint.Assoc

section Maps

variable {κ ν : Type} [DecidableEq κ]

theorem get?_put (entries : List (κ × ν)) (k k' : κ) (v : ν) :
    get? (put entries k v) k' = if k = k' then some v else get? entries k' := by
  split_ifs with h
  · subst h
    exact get?_put_self entries k v
  · exact get?_put_of_ne entries v h

theorem get?_push (entries : List (κ × List ν)) (k k' : κ) (v : ν) :
    get? (push entries k v) k' =
      if k = k' then some ((get? entries k').getD [] ++ [v]) else get? entries k' := by
  rw [push, get?_put]
  split_ifs with h
  · rw [h]
  · rfl

theorem nodup_keys_put {entries : List (κ × ν)} (h : (entries.map Prod.fst).Nodup) (k : κ) (v : ν) :
    ((put entries k v).map Prod.fst).Nodup := by
  rw [keys_put]
  split_ifs with hk
  · exact h
  · exact List.nodup_append_comm.1 (List.nodup_cons.2 ⟨hk, h⟩)

theorem mem_keys_put {entries : List (κ × ν)} {k k' : κ} {v : ν} :
    k' ∈ (put entries k v).map Prod.fst ↔ k' = k ∨ k' ∈ entries.map Prod.fst := by
  rw [keys_put]
  split_ifs with hk
  · exact ⟨.inr, fun h => h.elim (fun he => he ▸ hk) id⟩
  · rw [List.mem_append, List.mem_singleton, or_comm]

theorem get?_isSome_iff {entries : List (κ × ν)} {k : κ} :
    (get? entries k).isSome ↔ k ∈ entries.map Prod.fst := by
  induction entries with
  | nil => simp [get?]
  | cons e rest ih =>
    by_cases h : e.1 = k
    · simp [get?, h]
    · simp only [get?, h, if_false, ih, List.map_cons, List.mem_cons, Ne.symm h, false_or]

theorem get?_of_not_mem {entries : List (κ × ν)} {k : κ} (h : k ∉ entries.map Prod.fst) : get? entries k = none := by
  rw [← Option.not_isSome_iff_eq_none, get?_isSome_iff]
  exact h

/-- With distinct keys the entries are what can be looked up. -/
theorem get?_eq_some_iff {entries : List (κ × ν)} (h : (entries.map Prod.fst).Nodup) {k : κ} {v : ν} :
    get? entries k = some v ↔ (k, v) ∈ entries := by
  induction entries with
  | nil => simp [get?]
  | cons e rest ih =>
    obtain ⟨k', v'⟩ := e
    rw [List.map_cons, List.nodup_cons] at h
    have hr := ih h.2
    by_cases hk : k' = k
    · subst hk
      have hout : (k', v) ∉ rest := fun hm => h.1 (List.mem_map.2 ⟨_, hm, rfl⟩)
      simp [get?, hout, eq_comm]
    · simp [get?, hk, hr, Ne.symm hk]

/-! ### Histories of writes -/

theorem nodup_keys_foldl_put (pairs entries : List (κ × ν)) (h : (entries.map Prod.fst).Nodup) :
    ((pairs.foldl (fun m p => put m p.1 p.2) entries).map Prod.fst).Nodup := by
  induction pairs generalizing entries with
  | nil => exact h
  | cons p rest ih => exact ih _ (nodup_keys_put h p.1 p.2)

theorem get?_foldl_put (pairs entries : List (κ × ν)) (k : κ) :
    get? (pairs.foldl (fun m p => put m p.1 p.2) entries) k =
      ((pairs.filter (·.1 = k)).map Prod.snd).getLast?.or (get? entries k) := by
  induction pairs generalizing entries with
  | nil => rfl
  | cons p rest ih =>
    rw [List.foldl_cons, ih, get?_put]
    by_cases h : p.1 = k
    · -- the entry just written is found unless a later one replaces it
      cases hl : ((rest.filter (·.1 = k)).map Prod.snd).getLast? <;> simp [h, hl, List.getLast?_cons]
    · simp [h]

theorem nodup_keys_ofPairs (pairs : List (κ × ν)) : ((ofPairs pairs).map Prod.fst).Nodup :=
  nodup_keys_foldl_put pairs [] List.nodup_nil

/-- The last write to a key wins. -/
theorem get?_ofPairs (pairs : List (κ × ν)) (k : κ) :
    get? (ofPairs pairs) k = ((pairs.filter (·.1 = k)).map Prod.snd).getLast? := by
  rw [ofPairs, get?_foldl_put, get?, Option.or_none]

theorem mem_keys_ofPairs {pairs : List (κ × ν)} {k : κ} :
    k ∈ (ofPairs pairs).map Prod.fst ↔ k ∈ pairs.map Prod.fst := by
  rw [← get?_isSome_iff, get?_ofPairs, List.getLast?_isSome]
  simp

theorem put_of_not_mem {entries : List (κ × ν)} {k : κ} (v : ν) (h : k ∉ entries.map Prod.fst) :
    put entries k v = entries ++ [(k, v)] := by
  induction entries with
  | nil => rfl
  | cons e rest ih =>
    rw [List.map_cons, List.mem_cons, not_or] at h
    simp [put, Ne.symm h.1, ih h.2]

theorem foldl_put_of_nodup (pairs entries : List (κ × ν)) (h : ((entries ++ pairs).map Prod.fst).Nodup) :
    pairs.foldl (fun m p => put m p.1 p.2) entries = entries ++ pairs := by
  induction pairs generalizing entries with
  | nil => simp
  | cons p rest ih =>
    have hp : p.1 ∉ entries.map Prod.fst := by
      rw [List.map_append, List.map_cons] at h
      exact fun hmem => (List.nodup_append.1 h).2.2 _ hmem _ List.mem_cons_self rfl
    rw [List.foldl_cons, put_of_not_mem p.2 hp, ih _ (by simpa using h), List.append_assoc, List.singleton_append]

/-- Pairs with distinct keys are entries as they stand. -/
theorem ofPairs_of_nodup {pairs : List (κ × ν)} (h : (pairs.map Prod.fst).Nodup) : ofPairs pairs = pairs :=
  foldl_put_of_nodup pairs [] h

/-! ### Grouping -/

/-- The values of a list of pairs by key, those under one key in order. -/
def grouped (pairs : List (κ × ν)) : List (κ × List ν) := pairs.foldl (fun m p => push m p.1 p.2) []

theorem nodup_keys_foldl_push (pairs : List (κ × ν)) (entries : List (κ × List ν))
    (h : (entries.map Prod.fst).Nodup) : ((pairs.foldl (fun m p => push m p.1 p.2) entries).map Prod.fst).Nodup := by
  induction pairs generalizing entries with
  | nil => exact h
  | cons p rest ih => exact ih _ (nodup_keys_put h p.1 _)

theorem get?_foldl_push (pairs : List (κ × ν)) (entries : List (κ × List ν)) (k : κ) :
    get? (pairs.foldl (fun m p => push m p.1 p.2) entries) k =
      if k ∈ pairs.map Prod.fst then
        some ((get? entries k).getD [] ++ (pairs.filter (·.1 = k)).map Prod.snd)
      else get? entries k := by
  induction pairs generalizing entries with
  | nil => rfl
  | cons p rest ih =>
    rw [List.foldl_cons, ih, get?_push]
    by_cases h : p.1 = k
    · by_cases hr : k ∈ rest.map Prod.fst
      · simp [h, hr]
      · have hnone : rest.filter (·.1 = k) = [] := by
          rw [List.filter_eq_nil_iff]
          intro q hq hqk
          exact hr (List.mem_map.2 ⟨q, hq, by simpa using hqk⟩)
        simp [h, hr, hnone]
    · have hm : k ∈ (p :: rest).map Prod.fst ↔ k ∈ rest.map Prod.fst := by simp [Ne.symm h]
      simp only [h, if_false, hm, decide_false, Bool.false_eq_true, not_false_eq_true, List.filter_cons_of_neg]

theorem nodup_keys_grouped (pairs : List (κ × ν)) : ((grouped pairs).map Prod.fst).Nodup :=
  nodup_keys_foldl_push pairs [] List.nodup_nil

/-- A key has a list as soon as one value came under it, and the list has all of them in order. -/
theorem get?_grouped (pairs : List (κ × ν)) (k : κ) :
    get? (grouped pairs) k =
      if k ∈ pairs.map Prod.fst then some ((pairs.filter (·.1 = k)).map Prod.snd) else none :=
  get?_foldl_push pairs [] k

theorem push_of_not_mem {entries : List (κ × List ν)} {k : κ} (v : ν) (h : k ∉ entries.map Prod.fst) :
    push entries k v = entries ++ [(k, [v])] := by
  rw [push, get?_of_not_mem h, put_of_not_mem _ h]
  rfl

theorem push_last {entries : List (κ × List ν)} {k : κ} (vs : List ν) (v : ν) (h : k ∉ entries.map Prod.fst) :
    push (entries ++ [(k, vs)]) k v = entries ++ [(k, vs ++ [v])] := by
  induction entries with
  | nil => simp [push, put, get?]
  | cons e rest ih =>
    rw [List.map_cons, List.mem_cons, not_or] at h
    have hr := ih h.2
    rw [push] at hr
    simp [push, put, get?, Ne.symm h.1, hr]

theorem foldl_push_last {entries : List (κ × List ν)} {k : κ} (vs ws : List ν) (h : k ∉ entries.map Prod.fst) :
    (ws.map fun w => (k, w)).foldl (fun m p => push m p.1 p.2) (entries ++ [(k, vs)]) = entries ++ [(k, vs ++ ws)] := by
  induction ws generalizing vs with
  | nil => simp
  | cons w ws ih => rw [List.map_cons, List.foldl_cons, push_last vs w h, ih, List.append_assoc, List.singleton_append]

/-- Lists under distinct keys, none of them empty, are what their values group to. -/
theorem grouped_flatMap {entries : List (κ × List ν)} (h : (entries.map Prod.fst).Nodup)
    (filled : ∀ e ∈ entries, e.2 ≠ []) :
    grouped (entries.flatMap fun e => e.2.map fun v => (e.1, v)) = entries := by
  induction entries using List.reverseRecOn with
  | nil => rfl
  | append_singleton entries e ih =>
    obtain ⟨k, vs⟩ := e
    rw [List.map_append, List.map_singleton, List.nodup_append_comm, List.singleton_append, List.nodup_cons] at h
    rw [List.forall_mem_append, List.forall_mem_singleton] at filled
    obtain ⟨v, vs, rfl⟩ := List.exists_cons_of_ne_nil filled.2
    rw [List.flatMap_append, List.flatMap_singleton, grouped, List.foldl_append, ← grouped, ih h.2 filled.1,
      List.map_cons, List.foldl_cons, push_of_not_mem v h.1, foldl_push_last [v] vs h.1, List.singleton_append]

/-- The values of lists under distinct keys that come under one key are those of its list. -/
theorem filter_flatMap_of_nodup {μ : Type} {entries : List (κ × List ν)} (h : (entries.map Prod.fst).Nodup)
    (f : ν → μ) (k : κ) :
    ((entries.flatMap fun e => e.2.map fun v => (e.1, f v)).filter (·.1 = k)).map Prod.snd =
      ((get? entries k).getD []).map f := by
  induction entries with
  | nil => rfl
  | cons e rest ih =>
    obtain ⟨k', vs⟩ := e
    rw [List.map_cons, List.nodup_cons] at h
    rw [List.flatMap_cons, List.filter_append, List.map_append, ih h.2]
    by_cases hk : k' = k
    · subst hk
      simp [get?, get?_of_not_mem h.1, List.filter_map, Function.comp_def]
    · simp [get?, hk, List.filter_map, Function.comp_def]

end Maps

section Sorting

variable {ν : Type}

theorem pairwise_insertByKey {e : Int × ν} {entries : List (Int × ν)} (hne : ∀ f ∈ entries, f.1 ≠ e.1)
    (h : entries.Pairwise fun a b => a.1 < b.1) : (insertByKey e entries).Pairwise fun a b => a.1 < b.1 := by
  induction entries with
  | nil => simp [insertByKey]
  | cons f rest ih =>
    rw [List.pairwise_cons] at h
    by_cases hlt : e.1 < f.1
    · simp only [insertByKey, hlt, if_true, List.pairwise_cons, List.mem_cons, forall_eq_or_imp, true_and]
      exact ⟨fun a ha => Int.lt_trans hlt (h.1 a ha), h⟩
    · simp only [insertByKey, hlt, if_false, List.pairwise_cons]
      refine ⟨fun a ha => ?_, ih (fun a ha => hne a (List.mem_cons_of_mem _ ha)) h.2⟩
      rcases mem_insertByKey.1 ha with rfl | ha
      · have := hne f List.mem_cons_self
        omega
      · exact h.1 a ha

theorem mem_foldl_insertByKey {f : Int × ν} (entries sorted : List (Int × ν)) :
    f ∈ entries.foldl (fun sorted e => insertByKey e sorted) sorted ↔ f ∈ entries ∨ f ∈ sorted := by
  induction entries generalizing sorted with
  | nil => simp
  | cons e rest ih =>
    rw [List.foldl_cons, ih, mem_insertByKey, List.mem_cons, or_left_comm, or_assoc]

theorem mem_sortByKey {f : Int × ν} {entries : List (Int × ν)} : f ∈ sortByKey entries ↔ f ∈ entries := by
  simp [sortByKey, mem_foldl_insertByKey]

theorem pairwise_foldl_insertByKey (entries sorted : List (Int × ν))
    (hd : (entries.map Prod.fst).Nodup) (hs : sorted.Pairwise fun a b => a.1 < b.1)
    (hne : ∀ e ∈ entries, ∀ f ∈ sorted, f.1 ≠ e.1) :
    (entries.foldl (fun sorted e => insertByKey e sorted) sorted).Pairwise fun a b => a.1 < b.1 := by
  induction entries generalizing sorted with
  | nil => exact hs
  | cons e rest ih =>
    rw [List.map_cons, List.nodup_cons] at hd
    refine ih _ hd.2 (pairwise_insertByKey (hne e List.mem_cons_self) hs) fun a ha f hf => ?_
    rcases mem_insertByKey.1 hf with rfl | hf
    · exact fun he => hd.1 (he ▸ List.mem_map_of_mem ha)
    · exact hne a (List.mem_cons_of_mem _ ha) f hf

theorem pairwise_sortByKey {entries : List (Int × ν)} (h : (entries.map Prod.fst).Nodup) :
    (sortByKey entries).Pairwise fun a b => a.1 < b.1 :=
  pairwise_foldl_insertByKey entries [] h .nil (fun _ _ _ hf => absurd hf List.not_mem_nil)

end Sorting

end ContractLint.Assoc
