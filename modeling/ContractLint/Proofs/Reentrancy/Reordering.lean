import ContractLint.Proofs.Reentrancy.History

/-! How much the order of observations matters. The verdict uses the order of the instructions within each block and
which balance read comes first; observations may be interleaved across blocks, and calls moved among them, in any other
way. What does change is which callee is remembered for a block with several transfers, and that is not used. -/

namespace ContractLint.Reentrancy

open Observation

variable {σ : Type}

/-! ### States that give the same verdict -/

theorem lastTransfer?_congr {r r' : Reentrancy σ}
    (h : ∀ block, block ∈ r.transfers.map Prod.fst ↔ block ∈ r'.transfers.map Prod.fst) :
    r.lastTransfer? = r'.lastTransfer? := by
  ext last
  simp only [lastTransfer?, List.max?_eq_some_iff, h]

/-- The write that is found hangs on the instructions of each block, the last transfer and the tracked place. -/
theorem violation?_congr {tables : Tables} {r r' : Reentrancy σ} (hd : (r.blocks.map Prod.fst).Nodup)
    (hd' : (r'.blocks.map Prod.fst).Nodup) (hitems : r.itemsIn = r'.itemsIn)
    (hlast : r.lastTransfer? = r'.lastTransfer?) (htracked : r.tracked = r'.tracked) :
    r.violation? tables = r'.violation? tables := by
  ext write
  simp only [violation?_eq_some_iff hd, violation?_eq_some_iff hd', ← lastTransfer?_eq_some_iff, hitems, hlast,
    htracked]

theorem span_congr {tables : Tables} {r r' : Reentrancy Span} (hviolation : r.violation? tables = r'.violation? tables)
    (hbalance : r.balance = r'.balance) : r.span tables = r'.span tables := by
  simp only [span, evidence?, hviolation, hbalance]

/-! ### Histories -/

/-- The blocks with a transfer are those of the calls that were observed, whatever their order. -/
theorem mem_keys_transfers_of_perm (tables : Tables) {os os' : List (Observation σ)} (perm : os.Perm os')
    (block : Int) :
    block ∈ (observeAll tables {} os).transfers.map Prod.fst ↔
      block ∈ (observeAll tables {} os').transfers.map Prod.fst := by
  rw [observeAll_empty, observeAll_empty, Assoc.mem_keys_ofPairs, Assoc.mem_keys_ofPairs]
  exact ((perm.filterMap (transfer? tables)).map Prod.fst).mem_iff

/-- Two histories of the same observations, with the same instructions in the same order in each block and the same
first balance read, leave states that differ at most in the callees of their transfers, and the same verdict. -/
theorem observeAll_reordered (tables : Tables) {os os' : List (Observation Span)} (perm : os.Perm os')
    (order : ∀ block, recorded os block = recorded os' block)
    (read : firstRead? tables os = firstRead? tables os') :
    let r := observeAll tables {} os
    let r' := observeAll tables {} os'
    (∀ block, Assoc.get? r.blocks block = Assoc.get? r'.blocks block) ∧
    (r.tracked = r'.tracked ∧ r.balanceSpan .empty = r'.balanceSpan .empty) ∧
    (∀ block, block ∈ r.transfers.map Prod.fst ↔ block ∈ r'.transfers.map Prod.fst) ∧
    r.lastTransfer? = r'.lastTransfer? ∧
    r.check tables = r'.check tables ∧ r.span tables = r'.span tables := by
  intro r r'
  have hblocks (block : Int) : Assoc.get? r.blocks block = Assoc.get? r'.blocks block := by
    rw [get?_blocks_observeAll, get?_blocks_observeAll, order block]
  have hbalance : r.balance = r'.balance := by
    simp only [r, r', observeAll_empty, read]
  have htracked : r.tracked = r'.tracked := congrArg (Option.map Prod.fst) hbalance
  have hkeys := mem_keys_transfers_of_perm tables perm
  have hlast : r.lastTransfer? = r'.lastTransfer? := lastTransfer?_congr hkeys
  have hitems : r.itemsIn = r'.itemsIn := by
    funext block
    rw [itemsIn, itemsIn, hblocks]
  have hviolation : r.violation? tables = r'.violation? tables :=
    violation?_congr (nodup_blocks_observeAll tables os) (nodup_blocks_observeAll tables os') hitems hlast htracked
  refine ⟨hblocks, ⟨htracked, ?_⟩, hkeys, hlast, ?_, span_congr hviolation hbalance⟩
  · rw [balanceSpan, balanceSpan, hbalance]
  · rw [check, check, hviolation]

/-- A write to the balance. -/
def writeBack : Item := .statement ⟨.assign ⟨1, []⟩ (.use .unit), { lo := 40, hi := 50, line := 5 }⟩

/-- The write in the last block is seen first, then two transfers in one block, then two balance reads. -/
def lateReads : List (Observation Span) :=
  [.item 5 writeBack,
   .call 3 (.ofString "pay") none {},
   .call 3 (.ofString "send") none {},
   .item 3 (.terminator ⟨.ret, {}⟩),
   .call 0 (.ofString "get") (some ⟨1, []⟩) { lo := 10, hi := 20, line := 2 },
   .call 4 (.ofString "get") (some ⟨2, []⟩) {}]

/-- The same with both reads before the transfers, and those the other way round. -/
def earlyReads : List (Observation Span) :=
  [.call 0 (.ofString "get") (some ⟨1, []⟩) { lo := 10, hi := 20, line := 2 },
   .item 3 (.terminator ⟨.ret, {}⟩),
   .call 4 (.ofString "get") (some ⟨2, []⟩) {},
   .call 3 (.ofString "send") none {},
   .call 3 (.ofString "pay") none {},
   .item 5 writeBack]

/-- Tables for these observations. -/
def readTables : Tables := .ofEntries [(.balanceRead, "get"), (.valueTransfer, "pay"), (.valueTransfer, "send")]

theorem observeAll_reordered_reads :
    lateReads.Perm earlyReads ∧ (∀ block, recorded lateReads block = recorded earlyReads block) ∧
    firstRead? readTables lateReads = firstRead? readTables earlyReads ∧
    (observeAll readTables {} lateReads).transfers ≠ (observeAll readTables {} earlyReads).transfers ∧
    (observeAll readTables {} earlyReads).check readTables = true ∧
    (observeAll readTables {} earlyReads).span readTables = { lo := 10, hi := 50, line := 2 } := by
  have perm : lateReads.Perm earlyReads := by decide +kernel
  have order (block : Int) : recorded lateReads block = recorded earlyReads block := by
    have hlate : lateReads.filterMap item? = [(5, writeBack), (3, .terminator ⟨.ret, {}⟩)] := rfl
    have hearly : earlyReads.filterMap item? = [(3, .terminator ⟨.ret, {}⟩), (5, writeBack)] := rfl
    rw [recorded, recorded, hlate, hearly]
    by_cases h : block = 3
    · subst h
      rfl
    · simp only [List.filter_cons, Ne.symm h, decide_false, Bool.false_eq_true, if_false]
  have read : firstRead? readTables lateReads = firstRead? readTables earlyReads := by decide +kernel
  obtain ⟨-, -, -, -, hcheck, hspan⟩ := observeAll_reordered readTables perm order read
  refine ⟨perm, order, read, by decide +kernel, ?_, ?_⟩
  · rw [← hcheck]
    decide +kernel
  · rw [← hspan]
    decide +kernel

end ContractLint.Reentrancy
