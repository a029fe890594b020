import ContractLint.Proofs.Reentrancy.Visit

/-! The state of the reentrancy detector at every point of a visit. Each instruction is recorded before the call that it
makes, and blocks are visited in order of their ids. So at any point between two observations the state holds the
instructions seen so far, block after block, and no transfer is in a block of which nothing is recorded. -/

namespace ContractLint

namespace Reentrancy

open Observation

variable {σ : Type}

/-- The state follows a visit that has come through the instructions `seen`: they are grouped by block in the order in
which they came, and every block with a transfer is among those groups. -/
structure Follows (seen : List (Int × Item)) (r : Reentrancy σ) : Prop where
  increasing : (r.blocks.map Prod.fst).Pairwise (· < ·)
  filled : ∀ b ∈ r.blocks, b.2 ≠ []
  flatten : (r.blocks.flatMap fun b => b.2.map fun item => (b.1, item)) = seen
  transfers : ∀ id ∈ r.transfers.map Prod.fst, id ∈ r.blocks.map Prod.fst

variable {tables : Tables} {seen : List (Int × Item)} {r : Reentrancy σ}

theorem follows_nil : Follows [] ({} : Reentrancy σ) where
  increasing := .nil
  filled := fun _ h => absurd h List.not_mem_nil
  flatten := rfl
  transfers := fun _ h => absurd h List.not_mem_nil

namespace Follows

/-- The groups are those of the instructions seen. -/
theorem mem_keys_iff (h : Follows seen r) {id : Int} :
    id ∈ r.blocks.map Prod.fst ↔ ∃ item, (id, item) ∈ seen := by
  simp only [← h.flatten, List.mem_flatMap, List.mem_map, Prod.mk.injEq]
  constructor
  · rintro ⟨b, hb, rfl⟩
    obtain ⟨item, hi⟩ := List.exists_mem_of_ne_nil _ (h.filled b hb)
    exact ⟨item, b, hb, item, hi, rfl, rfl⟩
  · rintro ⟨item, b, hb, -, -, rfl, -⟩
    exact ⟨b, hb, rfl⟩

/-- An instruction of a block after all those seen begins a group of its own. -/
theorem recordItem_of_lt (h : Follows seen r) {block : Int} (item : Item)
    (hlt : ∀ id ∈ r.blocks.map Prod.fst, id < block) :
    Follows (seen ++ [(block, item)]) (r.recordItem block item) := by
  have hnew : block ∉ r.blocks.map Prod.fst := fun hmem => absurd (hlt block hmem) (lt_irrefl _)
  have hblocks : (r.recordItem block item).blocks = r.blocks ++ [(block, [item])] := Assoc.push_of_not_mem item hnew
  refine ⟨?_, ?_, ?_, fun id hid => ?_⟩
  · rw [hblocks, List.map_append, List.pairwise_append]
    exact ⟨h.increasing, List.pairwise_singleton _ _, fun id hid _ hlast => List.mem_singleton.1 hlast ▸ hlt id hid⟩
  · rw [hblocks, List.forall_mem_append, List.forall_mem_singleton]
    exact ⟨h.filled, List.cons_ne_nil _ _⟩
  · rw [hblocks, List.flatMap_append, h.flatten]
    rfl
  · rw [hblocks, List.map_append, List.mem_append]
    exact .inl (h.transfers id hid)

/-- An instruction of the last block seen joins its group. -/
theorem recordItem_last (h : Follows seen r) {block : Int} {items : List Item} {front : List (Int × List Item)}
    (hlast : r.blocks = front ++ [(block, items)]) (item : Item) :
    Follows (seen ++ [(block, item)]) (r.recordItem block item) := by
  have hkeys : r.blocks.map Prod.fst = front.map Prod.fst ++ [block] := by rw [hlast, List.map_append]; rfl
  have hfront : block ∉ front.map Prod.fst := by
    have hincreasing := h.increasing
    rw [hkeys, List.pairwise_append] at hincreasing
    exact fun hmem => absurd (hincreasing.2.2 block hmem block List.mem_cons_self) (lt_irrefl _)
  have hblocks : (r.recordItem block item).blocks = front ++ [(block, items ++ [item])] := by
    rw [recordItem, hlast, Assoc.push_last items item hfront]
  have hkeep : (r.recordItem block item).blocks.map Prod.fst = r.blocks.map Prod.fst := by
    rw [hblocks, hkeys, List.map_append]
    rfl
  have hfilled := h.filled
  rw [hlast, List.forall_mem_append] at hfilled
  refine ⟨?_, ?_, ?_, fun id hid => ?_⟩
  · rw [hkeep]
    exact h.increasing
  · rw [hblocks, List.forall_mem_append, List.forall_mem_singleton]
    exact ⟨hfilled.1, List.append_ne_nil_of_right_ne_nil _ (List.cons_ne_nil _ _)⟩
  · rw [hblocks, ← h.flatten, hlast]
    simp
  · rw [hkeep]
    exact h.transfers id hid

/-- An instruction is recorded, of a block that is not before any seen. -/
theorem recordItem (h : Follows seen r) {block : Int} (item : Item) (hle : ∀ x ∈ seen, x.1 ≤ block) :
    Follows (seen ++ [(block, item)]) (r.recordItem block item) := by
  have hkeys : ∀ id ∈ r.blocks.map Prod.fst, id ≤ block := by
    intro id hid
    obtain ⟨i, hi⟩ := h.mem_keys_iff.1 hid
    exact hle _ hi
  rcases List.eq_nil_or_concat r.blocks with hnil | ⟨front, b, hlast⟩
  · apply h.recordItem_of_lt item
    rw [hnil]
    exact fun _ hid => absurd hid List.not_mem_nil
  · rw [List.concat_eq_append] at hlast
    by_cases hb : b.1 = block
    · subst hb
      exact h.recordItem_last hlast item
    · -- all groups come before the last one or are it
      apply h.recordItem_of_lt item
      have hincreasing := h.increasing
      rw [hlast, List.map_append, List.pairwise_append] at hincreasing
      have hlt : b.1 < block := lt_of_le_of_ne (hkeys b.1 (by rw [hlast]; simp)) hb
      intro id hid
      rw [hlast, List.map_append, List.mem_append, List.map_singleton, List.mem_singleton] at hid
      rcases hid with hid | rfl
      · exact lt_trans (hincreasing.2.2 id hid b.1 List.mem_cons_self) hlt
      · exact hlt

/-- A call is recorded, of a block of which an instruction was seen. -/
theorem observe_call (h : Follows seen r) {block : Int} (hblock : block ∈ r.blocks.map Prod.fst) (callee : Value)
    (destination : Option Place) (span : σ) :
    Follows seen (r.observe tables (.call block callee destination span)) := by
  have hblocks : (r.observe tables (.call block callee destination span)).blocks = r.blocks := by
    rw [observe, attempt_eq]
    rfl
  refine ⟨by rw [hblocks]; exact h.increasing, by rw [hblocks]; exact h.filled, by rw [hblocks]; exact h.flatten,
    fun id hid => ?_⟩
  rw [hblocks]
  rcases mem_keys_transfers_observe.1 hid with hid | hid
  · exact h.transfers id hid
  · obtain ⟨t, ht, rfl⟩ := Option.map_eq_some_iff.1 hid
    obtain ⟨-, hcall⟩ := Option.ite_none_right_eq_some.1 ht
    obtain rfl := Option.some.inj hcall
    exact hblock

/-- The observations of one instruction, as far as they have been made. -/
theorem observations {r : Reentrancy Span} (h : Follows seen r) {x : Int × Item} (hle : ∀ y ∈ seen, y.1 ≤ x.1)
    {os : List (Observation Span)} (hos : os <+: x.2.observations x.1) :
    Follows (seen ++ os.filterMap item?) (observeAll tables r os) := by
  rw [Item.observations, Item.call?_eq] at hos
  rcases List.prefix_cons_iff.1 hos with rfl | ⟨calls, rfl, hcalls⟩
  · simpa [observeAll] using h
  have hitem : Follows (seen ++ [x]) (r.recordItem x.1 x.2) := h.recordItem x.2 hle
  cases hcallee : x.2.callee? with
  | none =>
    rw [hcallee] at hcalls
    obtain rfl := List.prefix_nil.1 hcalls
    exact hitem
  | some callee =>
    rw [hcallee] at hcalls
    rcases List.prefix_cons_iff.1 hcalls with rfl | ⟨rest, rfl, hrest⟩
    · exact hitem
    · obtain rfl := List.prefix_nil.1 hrest
      have hblock : x.1 ∈ (r.recordItem x.1 x.2).blocks.map Prod.fst := by
        rw [hitem.mem_keys_iff]
        exact ⟨x.2, List.mem_append_right _ List.mem_cons_self⟩
      exact hitem.observe_call hblock _ _ _

/-- The observations of the instructions `xs`, as far as they have been made. -/
theorem run {r : Reentrancy Span} (h : Follows seen r) {xs : List (Int × Item)}
    (hs : (seen ++ xs).Pairwise fun x y => x.1 ≤ y.1) {os : List (Observation Span)}
    (hos : os <+: xs.flatMap fun x => x.2.observations x.1) :
    Follows (seen ++ os.filterMap item?) (observeAll tables r os) := by
  induction xs generalizing seen r os with
  | nil =>
    obtain rfl := List.prefix_nil.1 hos
    simpa [observeAll] using h
  | cons x xs ih =>
    have hle : ∀ y ∈ seen, y.1 ≤ x.1 := fun y hy => (List.pairwise_append.1 hs).2.2 y hy x List.mem_cons_self
    rw [List.flatMap_cons] at hos
    rcases List.prefix_or_prefix_of_prefix hos (List.prefix_append _ _) with hpart | ⟨rest, rfl⟩
    · exact h.observations hle hpart
    · rw [List.prefix_append_right_inj] at hos
      have hx : Follows (seen ++ [x]) (observeAll tables r (x.2.observations x.1)) := by
        rw [← Item.filterMap_item?_observations]
        exact h.observations hle (List.prefix_refl _)
      rw [List.filterMap_append, Item.filterMap_item?_observations, ← List.append_assoc, observeAll_append]
      exact ih hx (by simpa using hs) hos

end Follows

theorem foldlM_record {os : List (Observation σ)} (h : ∀ o ∈ os, o.refusal? = none) (tables : Tables)
    (r : Reentrancy σ) : os.foldlM (record tables) r = .ok (observeAll tables r os) := by
  induction os generalizing r with
  | nil => rfl
  | cons o os ih =>
    rw [List.forall_mem_cons] at h
    have hrecord : r.record tables o = .ok (r.observe tables o) := by
      rw [record, observe, attempt_eq, h.1]
    rw [List.foldlM_cons, hrecord]
    exact ih h.2 _

end Reentrancy

namespace Body

open Reentrancy

/-- The calls of a function have texts for callees, so that none is refused. -/
theorem refusal?_of_mem_observations {body : Body} {o : Observation Span} (h : o ∈ body.observations) :
    o.refusal? = none := by
  simp only [observations, List.mem_flatMap] at h
  obtain ⟨b, -, item, -, ho⟩ := h
  rw [Item.observations, Item.call?_eq, List.mem_cons] at ho
  rcases ho with rfl | ho
  · rfl
  · obtain ⟨callee, -, rfl⟩ := Option.map_eq_some_iff.1 (Option.mem_toList.1 ho)
    simp [Observation.refusal?]

theorem follows_of_prefix {body : Body} {os : List (Observation Span)} (tables : Tables)
    (h : os <+: body.observations) : Follows (os.filterMap Observation.item?) (observeAll tables {} os) := by
  have hvisited : (body.visited.flatMap fun x => x.2.observations x.1) = body.observations := body.flatMap_visited _
  exact follows_nil.run body.pairwise_visited (hvisited ▸ h)

theorem flatMap_filter_items {α : Type} (blocks : List Block) (f : Block → Item → α) :
    ((blocks.filter fun b => !b.items.isEmpty).flatMap fun b => b.items.map (f b)) =
      blocks.flatMap fun b => b.items.map (f b) := by
  induction blocks with
  | nil => rfl
  | cons b rest ih =>
    rw [List.filter_cons, List.flatMap_cons]
    split_ifs with h
    · rw [List.flatMap_cons, ih]
    · have hnil : b.items = [] := by simpa using h
      rw [ih, hnil]
      rfl

/-- At the end of a visit the groups are the blocks that have instructions. -/
theorem blocks_observeAll (tables : Tables) (body : Body) :
    (observeAll tables {} body.observations).blocks =
      (body.blocks.filter fun b => !b.items.isEmpty).map fun b => (b.id, b.items) := by
  set groups := (body.blocks.filter fun b => !b.items.isEmpty).map fun b => (b.id, b.items) with hgroups
  have hvisited : body.visited = groups.flatMap fun b => b.2.map fun item => (b.1, item) := by
    rw [hgroups, List.flatMap_map, visited]
    exact (flatMap_filter_items body.blocks fun b item => (b.id, item)).symm
  have hkeys : (groups.map Prod.fst).Nodup := by
    rw [hgroups, List.map_map, List.Nodup, List.pairwise_map]
    exact (body.ordered.filter _).imp fun hlt => ne_of_lt hlt
  have hfilled : ∀ b ∈ groups, b.2 ≠ [] := by
    intro b hb
    obtain ⟨block, hblock, rfl⟩ := List.mem_map.1 hb
    simpa using (List.mem_filter.1 hblock).2
  rw [observeAll_empty, filterMap_item?_observations, hvisited]
  exact Assoc.grouped_flatMap hkeys hfilled

end Body

namespace Checker

open Reentrancy

/-- At any point of a visit the observations made so far have been recorded without an error. The instructions among
them are the first ones of the visit; the state holds them grouped by block, the blocks in increasing order, and every
block with a transfer among them. A balance that was tracked at an earlier point is tracked still. At the end the
groups are the blocks that have instructions, and the verdict on that state is the finding of the visit. -/
theorem visit_follows (c : Checker) (body : Body) (on : .reentrancy ∈ c.enabled) :
    (∀ os, os <+: body.observations →
      let r := observeAll c.tables {} os
      os.foldlM (record c.tables) {} = .ok r ∧ os.filterMap Observation.item? <+: body.visited ∧
      r.Follows (os.filterMap Observation.item?) ∧
      ∀ earlier balance, earlier <+: os → (observeAll c.tables {} earlier).balance = some balance →
        r.balance = some balance) ∧
    (observeAll c.tables {} body.observations).blocks =
      ((body.blocks.filter fun b => !b.items.isEmpty).map fun b => (b.id, b.items)) ∧
    ∀ report, c.visit body = .ok report →
      report.finding? .reentrancy = some ((observeAll c.tables {} body.observations).finding c.tables) := by
  refine ⟨fun os hos => ⟨?_, ?_, Body.follows_of_prefix c.tables hos, ?_⟩, Body.blocks_observeAll c.tables body,
    fun report hr => finding?_reentrancy on hr⟩
  · exact foldlM_record (fun o ho => Body.refusal?_of_mem_observations (hos.subset ho)) c.tables {}
  · rw [← body.filterMap_item?_observations]
    exact hos.filterMap _
  · rintro earlier balance ⟨more, rfl⟩ hbalance
    rw [observeAll_append, balance_observeAll, hbalance]
    rfl

/-- When the payment of the withdrawal has been observed, its block is among those of which instructions are recorded,
and the block of the write is not. -/
theorem visit_follows_withdrawal :
    let os := withdrawal.observations.take 4
    .reentrancy ∈ ofWithdrawal.enabled ∧ os <+: withdrawal.observations ∧
    ((observeAll ofWithdrawal.tables {} os).transfers.map Prod.fst = [0] ∧
      0 ∈ (observeAll ofWithdrawal.tables {} os).blocks.map Prod.fst) ∧
    (observeAll ofWithdrawal.tables {} os).blocks.map Prod.fst = [-1, 0] ∧
    (observeAll ofWithdrawal.tables {} withdrawal.observations).blocks.map Prod.fst = [-1, 0, 3] := by
  intro os
  have hos : os <+: withdrawal.observations := List.take_prefix 4 _
  have htransfers : (observeAll ofWithdrawal.tables {} os).transfers.map Prod.fst = [0] := by decide +kernel
  obtain ⟨hpoints, hend, -⟩ := visit_follows ofWithdrawal withdrawal (by decide)
  obtain ⟨-, -, hfollows, -⟩ := hpoints os hos
  refine ⟨by decide, hos, ⟨htransfers, hfollows.transfers 0 (by rw [htransfers]; decide)⟩, by decide +kernel, ?_⟩
  rw [hend]
  rfl

end Checker

end ContractLint
