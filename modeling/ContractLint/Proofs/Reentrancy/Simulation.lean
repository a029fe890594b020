import Mathlib.Data.List.Forall2
import ContractLint.Proofs.Reentrancy.Visit

/-! Two visits side by side. The reentrancy finding is computed from three lists that are read off the visit: the balance
reads, the blocks of the transfers, and the writes after the last of those. Two visits whose instructions count the same
one by one, be the functions or the tables different, therefore end in the same finding. -/

namespace ContractLint

open Reentrancy

/-! ### The finding as a function of the visit -/

namespace Body

variable (tables : Tables) (body : Body)

/-- The balance reads that store their results, in order. -/
def reads : List (Place × Span) := body.visited.filterMap fun x => x.2.read? tables

/-- The block of each value transfer, in order. -/
def transferBlocks : List Int :=
  (body.visited.filter fun x => x.2.callee?.any (tables.table .valueTransfer).covers).map Prod.fst

/-- The instructions after the block `last` that write `place`, in order. -/
def writesAfter (last : Int) (place : Place) : List (Int × Item) :=
  body.visited.filter fun x => last < x.1 && writesBalance tables (some place) x.2

theorem balance_observeAll : (observeAll tables {} body.observations).balance = (body.reads tables).head? := by
  rw [observeAll_empty, firstRead?_observations, ← map_snd_visited, List.findSome?_map, reads, List.head?_filterMap]
  rfl

theorem lastTransfer?_observeAll :
    (observeAll tables {} body.observations).lastTransfer? = (body.transferBlocks tables).max? := by
  have hmem (id : Int) : id ∈ (observeAll tables {} body.observations).transfers.map Prod.fst ↔
      id ∈ body.transferBlocks tables := by
    rw [observeAll_empty, Assoc.mem_keys_ofPairs, mem_keys_transfer?_observations]
    simp only [transferBlocks, List.mem_map, List.mem_filter, Prod.exists, exists_and_right, exists_eq_right,
      mem_visited, Item.Calls, Option.any_eq_true]
    constructor
    · rintro ⟨b, hb, rfl, item, hi, hcalls⟩
      exact ⟨item, ⟨b, hb, rfl, hi⟩, hcalls⟩
    · rintro ⟨item, ⟨b, hb, rfl, hi⟩, hcalls⟩
      exact ⟨b, hb, rfl, item, hi, hcalls⟩
  ext last
  simp only [lastTransfer?, List.max?_eq_some_iff, hmem]

/-- The visit goes through the blocks by their ids, so the first write by block and position is the first one seen. -/
theorem find?_itemsAfter_observeAll (last : Int) (place : Place) :
    ((observeAll tables {} body.observations).itemsAfter last).find? (writesBalance tables (some place)) =
      (body.writesAfter tables last place).head?.map Prod.snd := by
  have hd := nodup_blocks_observeAll tables body.observations
  rw [writesAfter, List.head?_filter]
  cases h : ((observeAll tables {} body.observations).itemsAfter last).find? (writesBalance tables (some place)) with
  | none =>
    have hnone : body.visited.find? (fun x => last < x.1 && writesBalance tables (some place) x.2) = none := by
      rw [List.find?_eq_none]
      rintro ⟨block, item⟩ hx hw
      rw [Bool.and_eq_true, decide_eq_true_eq] at hw
      have hitem : item ∈ (observeAll tables {} body.observations).itemsIn block := by
        rw [itemsIn_observeAll, mem_recorded_observations, ← mem_visited]
        exact hx
      exact List.find?_eq_none.1 h item ((mem_itemsAfter hd).2 ⟨block, hw.1, hitem⟩) hw.2
    rw [hnone, Option.map_none]
  | some write =>
    obtain ⟨block, hfirst⟩ := (find?_itemsAfter hd).1 h
    rw [itemsIn_observeAll, funext body.recorded_observations] at hfirst
    obtain ⟨before, rest, hsplit, hw, hbefore⟩ := isFirst_of_firstAfter body.pairwise_visited hfirst
    have hsome : body.visited.find? (fun x => last < x.1 && writesBalance tables (some place) x.2) =
        some (block, write) := by
      rw [List.find?_eq_some_iff_append]
      refine ⟨by simpa using hw, before, rest, hsplit, fun x hx => ?_⟩
      rw [Bool.not_eq_true', ← Bool.not_eq_true, Bool.and_eq_true, decide_eq_true_eq]
      exact hbefore x hx
    rw [hsome, Option.map_some]

/-- The spans that a visit puts into a positive finding: that of the first balance read, and that of the first write
after the last transfer. -/
theorem evidence?_observeAll :
    (observeAll tables {} body.observations).evidence? tables = (do
      let read ← (body.reads tables).head?
      let last ← (body.transferBlocks tables).max?
      let write ← (body.writesAfter tables last read.1).head?
      return (read.2, write.2.span)) := by
  rw [← balance_observeAll, ← lastTransfer?_observeAll, evidence?, violation?, tracked]
  cases (observeAll tables {} body.observations).balance with
  | none => cases (observeAll tables {} body.observations).lastTransfer? <;> rfl
  | some read =>
    cases (observeAll tables {} body.observations).lastTransfer? with
    | none => rfl
    | some last =>
      simp only [Option.map_some, find?_itemsAfter_observeAll, Option.bind_eq_bind, Option.bind_some]
      cases (body.writesAfter tables last read.1).head? <;> rfl

end Body

namespace Reentrancy

theorem check_eq_isSome_evidence? {σ : Type} (tables : Tables) (r : Reentrancy σ) :
    r.check tables = (r.evidence? tables).isSome := by
  cases h : r.violation? tables with
  | none => simp [check, evidence?, h]
  | some write =>
    cases hb : r.balance with
    | none => simp [violation?, tracked, hb] at h
    | some balance => simp [check, evidence?, h, hb]

theorem finding_congr {tables tables' : Tables} {r r' : Reentrancy Span}
    (h : r.evidence? tables = r'.evidence? tables') : r.finding tables = r'.finding tables' := by
  simp only [finding, check_eq_isSome_evidence?, span, h]

end Reentrancy

/-! ### Visits that match -/

/-- Two instructions count the same for reentrancy: they stand at the same span, neither or both transfer value, they
read balances into places that are related, and they write the same of any related places. -/
structure Item.Matches (tables tables' : Tables) (related : Place → Place → Prop) (i j : Item) : Prop where
  span : i.span = j.span
  transfer : i.callee?.any (tables.table .valueTransfer).covers = j.callee?.any (tables'.table .valueTransfer).covers
  read : Option.Rel (fun a b => related a.1 b.1 ∧ a.2 = b.2) (i.read? tables) (j.read? tables')
  write : ∀ p q, related p q → writesBalance tables (some p) i = writesBalance tables' (some q) j

theorem Item.Matches.of_eq {tables tables' : Tables} {i j : Item} (span : i.span = j.span)
    (transfer : i.callee?.any (tables.table .valueTransfer).covers = j.callee?.any (tables'.table .valueTransfer).covers)
    (read : i.read? tables = j.read? tables')
    (write : ∀ p, writesBalance tables (some p) i = writesBalance tables' (some p) j) : i.Matches tables tables' Eq j where
  span := span
  transfer := transfer
  read := by
    rw [read]
    cases j.read? tables' with
    | none => exact .none
    | some read => exact .some ⟨rfl, rfl⟩
  write := by
    rintro p _ rfl
    exact write p

theorem max?_map_of_monotone {xs : List Int} {f : Int → Int} (hf : ∀ a ∈ xs, ∀ b ∈ xs, a ≤ b → f a ≤ f b) :
    (xs.map f).max? = xs.max?.map f := by
  cases h : xs.max? with
  | none => simp [List.max?_eq_none_iff.1 h]
  | some m =>
    obtain ⟨hm, hle⟩ := List.max?_eq_some_iff.1 h
    refine List.max?_eq_some_iff.2 ⟨List.mem_map_of_mem hm, fun b hb => ?_⟩
    obtain ⟨a, ha, rfl⟩ := List.mem_map.1 hb
    exact hf a ha m hm (hle a ha)

theorem forall₂_filter {α β : Type} {R : α → β → Prop} {p : α → Bool} {q : β → Bool} {xs : List α} {ys : List β}
    (h : List.Forall₂ R xs ys) (hpq : ∀ x y, R x y → p x = q y) : List.Forall₂ R (xs.filter p) (ys.filter q) :=
  List.rel_filter (fun x y hxy => iff_of_eq (congrArg (· = true) (hpq x y hxy))) h

theorem filterMap_of_forall₂ {α β γ : Type} {R : α → β → Prop} {f : α → Option γ} {g : β → Option γ} {xs : List α}
    {ys : List β} (h : List.Forall₂ R xs ys) (hfg : ∀ x y, R x y → f x = g y) : xs.filterMap f = ys.filterMap g := by
  induction h with
  | nil => rfl
  | cons hxy _ ih => rw [List.filterMap_cons, List.filterMap_cons, hfg _ _ hxy, ih]

theorem rel_head? {α β : Type} {R : α → β → Prop} {xs : List α} {ys : List β} (h : List.Forall₂ R xs ys) :
    Option.Rel R xs.head? ys.head? := by
  cases h with
  | nil => exact .none
  | cons hxy _ => exact .some hxy

namespace Body

variable {tables tables' : Tables} {related : Place → Place → Prop} {f : Int → Int} {body body' : Body}

/-- The visits of two functions match instruction by instruction, the blocks of the one being renumbered by `f` in the
other. -/
def VisitsMatch (tables tables' : Tables) (related : Place → Place → Prop) (f : Int → Int) (body body' : Body) : Prop :=
  List.Forall₂ (fun x y => y.1 = f x.1 ∧ x.2.Matches tables tables' related y.2) body.visited body'.visited

/-- Blocks that are related item by item are visited item by item. -/
theorem forall₂_visited_of_blocks {R : Item → Item → Prop}
    (h : List.Forall₂ (fun b b' => b'.id = f b.id ∧ List.Forall₂ R b.items b'.items) body.blocks body'.blocks) :
    List.Forall₂ (fun x y => y.1 = f x.1 ∧ R x.2 y.2) body.visited body'.visited := by
  refine List.rel_flatMap h fun b b' hb => ?_
  rw [List.forall₂_map_left_iff, List.forall₂_map_right_iff]
  exact hb.2.imp fun i j hij => ⟨hb.1, hij⟩

/-- The numbering `f` of the blocks of a function keeps their order. -/
def Increasing (body : Body) (f : Int → Int) : Prop := ∀ a ∈ body.ids, ∀ b ∈ body.ids, a < b → f a < f b

theorem increasing_id (body : Body) : body.Increasing id :=
  fun _ _ _ _ hab => hab

theorem Increasing.le (h : body.Increasing f) {a b : Int} (ha : a ∈ body.ids) (hb : b ∈ body.ids) (hab : a ≤ b) :
    f a ≤ f b := by
  obtain hlt | rfl := Int.lt_or_eq_of_le hab
  · exact Int.le_of_lt (h a ha b hb hlt)
  · exact Int.le_refl _

theorem Increasing.lt_iff_lt (h : body.Increasing f) {a b : Int} (ha : a ∈ body.ids) (hb : b ∈ body.ids) :
    f a < f b ↔ a < b := by
  constructor
  · intro hlt
    by_contra hle
    have := h.le hb ha (Int.not_lt.1 hle)
    omega
  · exact h a ha b hb

theorem mem_ids_of_mem_visited {x : Int × Item} (h : x ∈ body.visited) : x.1 ∈ body.ids := by
  obtain ⟨b, hb, hid, -⟩ := mem_visited.1 h
  exact List.mem_map.2 ⟨b, hb, hid⟩

theorem mem_ids_of_mem_transferBlocks {id : Int} (h : id ∈ body.transferBlocks tables) : id ∈ body.ids := by
  obtain ⟨x, hx, rfl⟩ := List.mem_map.1 h
  exact mem_ids_of_mem_visited (List.mem_filter.1 hx).1

theorem VisitsMatch.reads (h : VisitsMatch tables tables' related f body body') :
    List.Forall₂ (fun a b => related a.1 b.1 ∧ a.2 = b.2) (body.reads tables) (body'.reads tables') :=
  List.rel_filterMap (fun _ _ hxy => hxy.2.read) h

theorem VisitsMatch.transferBlocks (h : VisitsMatch tables tables' related f body body') :
    body'.transferBlocks tables' = (body.transferBlocks tables).map f := by
  have hmap : List.Forall₂ Eq ((body.transferBlocks tables).map f) (body'.transferBlocks tables') := by
    rw [Body.transferBlocks, List.map_map, List.forall₂_map_left_iff, Body.transferBlocks, List.forall₂_map_right_iff]
    exact (forall₂_filter h fun x y hxy => hxy.2.transfer).imp fun x y hxy => hxy.1.symm
  rw [List.forall₂_eq_eq_eq] at hmap
  exact hmap.symm

theorem VisitsMatch.writesAfter (h : VisitsMatch tables tables' related f body body')
    (increasing : body.Increasing f) {last : Int} (hlast : last ∈ body.ids) {p q : Place}
    (hpq : related p q) :
    List.Forall₂ (fun x y => x.2.span = y.2.span) (body.writesAfter tables last p)
      (body'.writesAfter tables' (f last) q) := by
  have hids : ∀ x ∈ body.visited, x.1 ∈ body.ids := fun x hx => mem_ids_of_mem_visited hx
  have hvisits := (List.forall₂_and_left _ _).2 ⟨hids, h⟩
  refine (forall₂_filter hvisits ?_).imp fun x y hxy => hxy.2.2.span
  rintro x y ⟨hx, hid, hmatch⟩
  have hlt : (last < x.1) = (f last < y.1) := by
    rw [hid, increasing.lt_iff_lt hlast hx]
  simp only [hlt, hmatch.write p q hpq]

/-- Matching visits end in the same finding, if the renumbering keeps the order of the blocks. -/
theorem VisitsMatch.finding (h : VisitsMatch tables tables' related f body body')
    (increasing : body.Increasing f) :
    (observeAll tables {} body.observations).finding tables =
      (observeAll tables' {} body'.observations).finding tables' := by
  have hmax : (body'.transferBlocks tables').max? = (body.transferBlocks tables).max?.map f := by
    rw [h.transferBlocks]
    refine max?_map_of_monotone fun a ha b hb hab => ?_
    exact increasing.le (mem_ids_of_mem_transferBlocks ha) (mem_ids_of_mem_transferBlocks hb) hab
  have hreads := rel_head? h.reads
  apply finding_congr
  rw [evidence?_observeAll, evidence?_observeAll, hmax]
  generalize (body.reads tables).head? = read, (body'.reads tables').head? = read' at hreads ⊢
  cases hreads with
  | none => rfl
  | @some read read' hread =>
    cases hlast : (body.transferBlocks tables).max? with
    | none => rfl
    | some last =>
      have hmem := mem_ids_of_mem_transferBlocks (List.max?_eq_some_iff.1 hlast).1
      have hwrites := rel_head? (h.writesAfter increasing hmem hread.1)
      simp only [Option.bind_eq_bind, Option.bind_some, Option.map_some]
      generalize (body.writesAfter tables last read.1).head? = write,
        (body'.writesAfter tables' (f last) read'.1).head? = write' at hwrites ⊢
      cases hwrites with
      | none => rfl
      | some hspan => simp only [Option.bind_some, hspan, hread.2]

end Body

end ContractLint
