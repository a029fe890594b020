import ContractLint.Proofs.Reentrancy.Reordering

/-! How the verdict changes as observations come in. It does not only grow: each transfer may move the block behind
which writes of the balance count. A positive verdict is withdrawn by a transfer in a block that no write comes
after, and by nothing else that is observed. -/

namespace ContractLint.Reentrancy

open Observation

variable {σ : Type}

/-- The tracked balance is written in a block. -/
def WrittenIn (tables : Tables) (r : Reentrancy σ) (block : Int) : Prop :=
  ∃ item ∈ r.itemsIn block, writesBalance tables r.tracked item = true

variable {tables : Tables} {r : Reentrancy σ} {o : Observation σ}

/-- The verdict without the last transfer: value is transferred, and a write comes after every transfer. -/
theorem check_iff_writtenIn (h : (r.blocks.map Prod.fst).Nodup) :
    r.check tables = true ↔
      r.tracked.isSome ∧ (∃ b, b ∈ r.transfers.map Prod.fst) ∧
        ∃ block, r.WrittenIn tables block ∧ ∀ b ∈ r.transfers.map Prod.fst, b < block := by
  rw [check_iff h]
  constructor
  · rintro ⟨place, last, block, item, hi, ht, hlast, hlt, hw⟩
    refine ⟨by rw [ht]; rfl, ⟨last, hlast.1⟩, block, ⟨item, hi, by rw [ht]; exact hw⟩, fun b hb => ?_⟩
    exact lt_of_le_of_lt (hlast.2 hb) hlt
  · rintro ⟨ht, ⟨b, hb⟩, block, ⟨item, hi, hw⟩, hlt⟩
    obtain ⟨place, ht⟩ := Option.isSome_iff_exists.1 ht
    have hmax : r.lastTransfer? ≠ none := by
      rw [lastTransfer?, ne_eq, List.max?_eq_none_iff]
      exact List.ne_nil_of_mem hb
    obtain ⟨last, hlast⟩ := Option.ne_none_iff_exists'.1 hmax
    have hgreatest := lastTransfer?_eq_some_iff.1 hlast
    exact ⟨place, last, block, item, hi, ht, hgreatest, hlt last hgreatest.1, by rw [← ht]; exact hw⟩

/-! ### What an observation adds -/

theorem transfer?_eq_some_iff {block : Int} {callee : Value} :
    o.transfer? tables = some (block, callee) ↔
      ∃ destination span, o = .call block callee destination span ∧
        (tables.table .valueTransfer).finds callee = true := by
  cases o with
  | item b i => simp [transfer?]
  | other value => simp [transfer?]
  | call b name destination span =>
    simp only [transfer?, Option.ite_none_right_eq_some, Option.some.injEq, Prod.mk.injEq]
    constructor
    · rintro ⟨hfinds, rfl, rfl⟩
      exact ⟨destination, span, rfl, hfinds⟩
    · rintro ⟨_, _, heq, hfinds⟩
      cases heq
      exact ⟨hfinds, rfl, rfl⟩

/-- A balance that is tracked stays the one that is tracked. -/
theorem balance_observe_of_isSome (h : r.tracked.isSome) : (r.observe tables o).balance = r.balance := by
  rw [observe, attempt_eq]
  cases hb : r.balance with
  | none => simp [tracked, hb] at h
  | some balance => rfl

theorem tracked_observe_of_isSome (h : r.tracked.isSome) : (r.observe tables o).tracked = r.tracked := by
  rw [tracked, tracked, balance_observe_of_isSome h]

/-- What was recorded of a block stays in front of what is recorded later. -/
theorem itemsIn_prefix_observe (block : Int) : r.itemsIn block <+: (r.observe tables o).itemsIn block := by
  rw [observe, attempt_eq]
  cases o.item? with
  | none => exact List.prefix_refl _
  | some x =>
    simp only [itemsIn, Assoc.get?_push]
    split_ifs with h
    · exact List.prefix_append _ _
    · exact List.prefix_refl _

theorem itemsIn_observe_of_transfer {t : Int × Value} (h : o.transfer? tables = some t) :
    (r.observe tables o).itemsIn = r.itemsIn := by
  obtain ⟨destination, span, rfl, -⟩ := transfer?_eq_some_iff.1 h
  funext block
  rw [observe, attempt_eq]
  rfl

theorem nodup_blocks_observe (h : (r.blocks.map Prod.fst).Nodup) :
    ((r.observe tables o).blocks.map Prod.fst).Nodup := by
  rw [observe, attempt_eq]
  cases o.item? with
  | none => exact h
  | some x => exact Assoc.nodup_keys_put h x.1 _

/-! ### The verdict after one more observation -/

/-- Without a transfer the same write still counts. -/
theorem check_observe_of_no_transfer (h : (r.blocks.map Prod.fst).Nodup) (positive : r.check tables = true)
    (ho : o.transfer? tables = none) : (r.observe tables o).check tables = true := by
  obtain ⟨ht, ⟨last, hlast⟩, block, ⟨item, hi, hw⟩, hlt⟩ := (check_iff_writtenIn h).1 positive
  have htracked : (r.observe tables o).tracked = r.tracked := tracked_observe_of_isSome ht
  have hkeys (b : Int) : b ∈ (r.observe tables o).transfers.map Prod.fst ↔ b ∈ r.transfers.map Prod.fst := by
    rw [mem_keys_transfers_observe, ho]
    simp
  have hwritten : (r.observe tables o).WrittenIn tables block :=
    ⟨item, (itemsIn_prefix_observe block).subset hi, by rw [htracked]; exact hw⟩
  rw [check_iff_writtenIn (nodup_blocks_observe h), htracked]
  exact ⟨ht, ⟨last, (hkeys last).2 hlast⟩, block, hwritten, fun b hb => hlt b ((hkeys b).1 hb)⟩

/-- After a further transfer a write counts if it comes after that one as well. -/
theorem check_observe_of_transfer (h : (r.blocks.map Prod.fst).Nodup) (positive : r.check tables = true)
    {t : Int × Value} (ho : o.transfer? tables = some t) :
    (r.observe tables o).check tables = true ↔
      ∃ block, r.WrittenIn tables block ∧ (∀ b ∈ r.transfers.map Prod.fst, b < block) ∧ t.1 < block := by
  have ht : r.tracked.isSome := ((check_iff_writtenIn h).1 positive).1
  have htracked : (r.observe tables o).tracked = r.tracked := tracked_observe_of_isSome ht
  have hkeys (b : Int) :
      b ∈ (r.observe tables o).transfers.map Prod.fst ↔ b ∈ r.transfers.map Prod.fst ∨ t.1 = b := by
    rw [mem_keys_transfers_observe, ho, Option.map_some, Option.some_inj]
  have hwritten (block : Int) : (r.observe tables o).WrittenIn tables block ↔ r.WrittenIn tables block := by
    rw [WrittenIn, WrittenIn, itemsIn_observe_of_transfer ho, htracked]
  have hlast : t.1 ∈ (r.observe tables o).transfers.map Prod.fst := (hkeys t.1).2 (.inr rfl)
  rw [check_iff_writtenIn (nodup_blocks_observe h), htracked]
  constructor
  · rintro ⟨-, -, block, hw, hlt⟩
    exact ⟨block, (hwritten block).1 hw, fun b hb => hlt b ((hkeys b).2 (.inl hb)), hlt _ hlast⟩
  · rintro ⟨block, hw, hlt, hafter⟩
    refine ⟨ht, ⟨t.1, hlast⟩, block, (hwritten block).2 hw, fun b hb => ?_⟩
    rcases (hkeys b).1 hb with hb | rfl
    · exact hlt b hb
    · exact hafter

/-- A transfer withdraws a positive verdict if no write comes after it. -/
theorem not_check_observe_of_transfer (h : (r.blocks.map Prod.fst).Nodup) (positive : r.check tables = true)
    {t : Int × Value} (ho : o.transfer? tables = some t) :
    (r.observe tables o).check tables = false ↔ ∀ block, r.WrittenIn tables block → block ≤ t.1 := by
  rw [← Bool.not_eq_true, check_observe_of_transfer h positive ho]
  constructor
  · intro hnone block hw
    by_contra hlt
    obtain ⟨-, -, found, hfound, hafter⟩ := (check_iff_writtenIn h).1 positive
    -- of the write that was found and this one, the later comes after every transfer
    rcases le_total found block with hle | hle
    · exact hnone ⟨block, hw, fun b hb => lt_of_lt_of_le (hafter b hb) hle, not_le.1 hlt⟩
    · exact hnone ⟨found, hfound, hafter, lt_of_lt_of_le (not_le.1 hlt) hle⟩
  · rintro hall ⟨block, hw, -, hlt⟩
    exact absurd (hall block hw) (not_le.2 hlt)

/-- A positive verdict stands as long as no value is transferred. -/
theorem check_observeAll_of_no_transfer (h : (r.blocks.map Prod.fst).Nodup) (positive : r.check tables = true)
    {os : List (Observation σ)} (hos : ∀ o ∈ os, o.transfer? tables = none) :
    (observeAll tables r os).check tables = true := by
  induction os generalizing r with
  | nil => exact positive
  | cons o os ih =>
    rw [List.forall_mem_cons] at hos
    exact ih (nodup_blocks_observe h) (check_observe_of_no_transfer h positive hos.1) hos.2

/-- Whatever has been observed, a positive verdict is withdrawn by one more observation if that is a transfer in a block
that is not before any block in which the balance is written, and not otherwise. So instructions, balance reads and
other calls never withdraw it: a verdict that is positive stands through any number of observations without
a transfer, and to look at a call as a balance read changes nothing at all. The balance that is tracked, the span of its
read and the instructions recorded so far are kept. -/
theorem check_observe_eq_false_iff (tables : Tables) (os : List (Observation σ)) (o : Observation σ)
    (positive : (observeAll tables {} os).check tables = true) :
    let r := observeAll tables {} os
    let r' := r.observe tables o
    (r'.check tables = false ↔
      ∃ block callee destination span, o = .call block callee destination span ∧
        (tables.table .valueTransfer).finds callee = true ∧ ∀ b, r.WrittenIn tables b → b ≤ block) ∧
    (∀ more : List (Observation σ), (∀ p ∈ more, p.transfer? tables = none) →
      (observeAll tables r more).check tables = true) ∧
    (∀ callee destination span, r.noteRead tables callee destination span = .ok r) ∧
    (r'.tracked = r.tracked ∧ ∀ empty, r'.balanceSpan empty = r.balanceSpan empty) ∧
    ∀ block, r.itemsIn block <+: r'.itemsIn block := by
  intro r r'
  have hd : (r.blocks.map Prod.fst).Nodup := nodup_blocks_observeAll tables os
  have ht : r.tracked.isSome := ((check_iff_writtenIn hd).1 positive).1
  have hbalance : r'.balance = r.balance := balance_observe_of_isSome ht
  refine ⟨⟨fun hfalse => ?_, ?_⟩, fun more hmore => check_observeAll_of_no_transfer hd positive hmore, ?_,
    ⟨tracked_observe_of_isSome ht, fun empty => by rw [balanceSpan, balanceSpan, hbalance]⟩,
    itemsIn_prefix_observe⟩
  · cases htransfer : o.transfer? tables with
    | none => exact absurd (check_observe_of_no_transfer hd positive htransfer) (Bool.eq_false_iff.1 hfalse)
    | some t =>
      obtain ⟨destination, span, ho, hfinds⟩ := transfer?_eq_some_iff.1 htransfer
      exact ⟨t.1, t.2, destination, span, ho, hfinds, (not_check_observe_of_transfer hd positive htransfer).1 hfalse⟩
  · rintro ⟨block, callee, destination, span, ho, hfinds, hall⟩
    have htransfer : o.transfer? tables = some (block, callee) :=
      transfer?_eq_some_iff.2 ⟨destination, span, ho, hfinds⟩
    exact (not_check_observe_of_transfer hd positive htransfer).2 hall
  · intro callee destination span
    obtain ⟨place, hplace⟩ := Option.isSome_iff_exists.1 ht
    obtain ⟨balance, hsome, -⟩ := Option.map_eq_some_iff.1 hplace
    simp only [noteRead, hsome]

/-- The balance is written in block 5: a transfer there withdraws the verdict, and one in block 4 does not. -/
theorem check_observe_eq_false_iff_lateReads :
    let r := observeAll readTables {} lateReads
    r.check readTables = true ∧
    (r.observe readTables (.call 5 (.ofString "pay") none {})).check readTables = false ∧
    (r.observe readTables (.call 4 (.ofString "pay") none {})).check readTables = true := by
  intro r
  have positive : r.check readTables = true := by decide +kernel
  have hfinds : (readTables.table .valueTransfer).finds (.ofString "pay") = true := by decide +kernel
  have hitems : r.itemsIn = recorded lateReads := itemsIn_observeAll readTables lateReads
  have hrecorded (b : Int) (hb : 5 < b) : recorded lateReads b = [] := by
    have hseen : lateReads.filterMap item? = [(5, writeBack), (3, .terminator ⟨.ret, {}⟩)] := rfl
    have h5 : (5 : Int) ≠ b := by omega
    have h3 : (3 : Int) ≠ b := by omega
    simp only [recorded, hseen, List.filter_cons, h5, h3, decide_false, Bool.false_eq_true, if_false, List.filter_nil,
      List.map_nil]
  have hwritten : r.WrittenIn readTables 5 := by
    refine ⟨writeBack, ?_, by decide +kernel⟩
    rw [hitems]
    decide +kernel
  refine ⟨positive, ?_, ?_⟩
  · refine (check_observe_eq_false_iff readTables lateReads _ positive).1.2 ⟨5, _, none, {}, rfl, hfinds, ?_⟩
    rintro b ⟨item, hi, -⟩
    by_contra hb
    rw [hitems, hrecorded b (by omega)] at hi
    exact List.not_mem_nil hi
  · rw [← Bool.not_eq_false]
    intro hfalse
    obtain ⟨block, _, _, _, ho, -, hall⟩ :=
      (check_observe_eq_false_iff readTables lateReads (.call 4 (.ofString "pay") none {}) positive).1.1 hfalse
    cases ho
    exact absurd (hall 5 hwritten) (by decide)

end ContractLint.Reentrancy
