import Mathlib.Order.Bounds.Basic
import ContractLint.Detector.Reentrancy
import ContractLint.Proofs.Assoc

/-! The state of the reentrancy detector as a function of all that was observed. Observations may come in any order,
for any blocks, and some of them may be refused. Each field of the state is a view of the whole history, and the
verdict is read off these views. -/

namespace ContractLint

/-- Whether looking up a callee succeeds and finds it. -/
def Table.finds (t : Table) (callee : Value) : Bool := (t.matchesValue callee).toOption.getD false

namespace Table

theorem matchesValue_of_ok {callee : Value} {path : Text} (h : Path.ofValue callee = .ok path) (t : Table) :
    t.matchesValue callee = .ok (t.finds callee) := by
  simp [finds, matchesValue, h, Except.map, Except.toOption]

theorem matchesValue_of_error {callee : Value} {e : PathError} (h : Path.ofValue callee = .error e) (t : Table) :
    t.matchesValue callee = .error e := by
  simp [matchesValue, h, Except.map]

theorem finds_of_error {callee : Value} {e : PathError} (h : Path.ofValue callee = .error e) (t : Table) :
    t.finds callee = false := by
  simp [finds, matchesValue_of_error h, Except.toOption]

@[simp] theorem finds_string (t : Table) (callee : Text) : t.finds (.string callee) = t.covers callee := by
  simp [finds, matchesValue, covers, Except.map, Except.toOption]

end Table

namespace Observation

variable {σ : Type}

/-- The instruction that is observed, with its block. -/
def item? : Observation σ → Option (Int × Item)
  | .item block i => some (block, i)
  | _ => none

/-- The callee of a value transfer, with the block of the call. -/
def transfer? (tables : Tables) : Observation σ → Option (Int × Value)
  | .call block callee _ _ => if (tables.table .valueTransfer).finds callee then some (block, callee) else none
  | _ => none

/-- The place that a balance read stores its result in, with the span of the call. -/
def read? (tables : Tables) : Observation σ → Option (Place × σ)
  | .call _ callee (some place) span =>
    if (tables.table .balanceRead).finds callee then some (place, span) else none
  | _ => none

/-- Why the observation is refused: it is of a call, and the callee is no path. -/
def refusal? : Observation σ → Option PathError
  | .call _ callee _ _ =>
    match Path.ofValue callee with
    | .ok _ => none
    | .error e => some e
  | _ => none

end Observation

namespace Reentrancy

open Observation

variable {σ : Type}

/-! ### One observation -/

theorem noteRead_of_ok {callee : Value} {path : Text} (h : Path.ofValue callee = .ok path) (tables : Tables)
    (r : Reentrancy σ) (block : Int) (destination : Option Place) (span : σ) :
    r.noteRead tables callee destination span =
      .ok { r with balance := r.balance.or (read? tables (.call block callee destination span)) } := by
  obtain ⟨blocks, transfers, balance⟩ := r
  cases balance with
  | some b => rfl
  | none =>
    cases destination with
    | none => rfl
    | some place =>
      simp only [noteRead, Table.matchesValue_of_ok h, Except.map, read?, Option.none_or]
      split_ifs <;> rfl

theorem noteTransfer_of_ok {callee : Value} {path : Text} (h : Path.ofValue callee = .ok path) (tables : Tables)
    (r : Reentrancy σ) (block : Int) :
    r.noteTransfer tables block callee =
      .ok (if (tables.table .valueTransfer).finds callee then r.recordTransfer block callee else r) := by
  simp only [noteTransfer, Table.matchesValue_of_ok h, Except.map]

/-- Both look-ups of a call fail or neither does, so an error never comes after the balance has been set. -/
theorem recordCall_of_error {callee : Value} {e : PathError} (h : Path.ofValue callee = .error e) (tables : Tables)
    (r : Reentrancy σ) (block : Int) (destination : Option Place) (span : σ) :
    r.recordCall tables block callee destination span = (r, some e) := by
  have ht : r.noteTransfer tables block callee = .error e := by
    simp only [noteTransfer, Table.matchesValue_of_error h, Except.map]
  -- the first look-up is made only for a call that could set the balance
  have hr : r.noteRead tables callee destination span = .error e ∨
      r.noteRead tables callee destination span = .ok r := by
    unfold noteRead
    split
    · left
      simp only [Table.matchesValue_of_error h, Except.map]
    · right
      rfl
  rcases hr with hr | hr
  · simp only [recordCall, hr]
  · simp only [recordCall, hr, ht]

/-- What an observation does to each field of the state, and when it is refused. -/
theorem attempt_eq (tables : Tables) (r : Reentrancy σ) (o : Observation σ) :
    r.attempt tables o =
      ({ blocks := match o.item? with
          | some (block, i) => Assoc.push r.blocks block i
          | none => r.blocks
         transfers := match o.transfer? tables with
          | some (block, callee) => Assoc.put r.transfers block callee
          | none => r.transfers
         balance := r.balance.or (o.read? tables) }, o.refusal?) := by
  cases o with
  | item block i => simp [attempt, recordItem, item?, transfer?, read?, refusal?]
  | other value => simp [attempt, item?, transfer?, read?, refusal?]
  | call block callee destination span =>
    cases h : Path.ofValue callee with
    | error e =>
      have hread : read? tables (.call block callee destination span) = none := by
        cases destination <;> simp [read?, Table.finds_of_error h]
      simp [attempt, recordCall_of_error h, item?, transfer?, hread, refusal?, h, Table.finds_of_error h]
    | ok path =>
      simp only [attempt, recordCall, noteRead_of_ok h tables r block, noteTransfer_of_ok h, item?, transfer?,
        refusal?, h, recordTransfer]
      split_ifs <;> rfl

theorem record_eq_error_iff {tables : Tables} {r : Reentrancy σ} {o : Observation σ} {e : PathError} :
    r.record tables o = .error e ↔ o.refusal? = some e := by
  rw [record, attempt_eq]
  cases o.refusal? <;> simp

/-- An observation that is refused leaves the state as it was. -/
theorem observe_of_record_error {tables : Tables} {r : Reentrancy σ} {o : Observation σ} {e : PathError}
    (h : r.record tables o = .error e) : r.observe tables o = r := by
  rw [record_eq_error_iff] at h
  cases o with
  | item block i => simp [refusal?] at h
  | other value => simp [refusal?] at h
  | call block callee destination span =>
    cases hp : Path.ofValue callee with
    | ok path => simp [refusal?, hp] at h
    | error e' => rw [observe, attempt, recordCall_of_error hp]

theorem mem_keys_transfers_observe {tables : Tables} {r : Reentrancy σ} {o : Observation σ} {block : Int} :
    block ∈ (r.observe tables o).transfers.map Prod.fst ↔
      block ∈ r.transfers.map Prod.fst ∨ (o.transfer? tables).map Prod.fst = some block := by
  rw [observe, attempt_eq]
  cases o.transfer? tables with
  | none => simp
  | some t => rw [Assoc.mem_keys_put, Option.map_some, Option.some_inj, eq_comm, or_comm]

/-! ### Runs -/

/-- The instructions recorded for a block, in order. -/
def recorded (os : List (Observation σ)) (block : Int) : List Item :=
  ((os.filterMap item?).filter (·.1 = block)).map Prod.snd

/-- The callees of the transfers in a block, in order. -/
def transferred (tables : Tables) (os : List (Observation σ)) (block : Int) : List Value :=
  ((os.filterMap (transfer? tables)).filter (·.1 = block)).map Prod.snd

/-- The first balance read that stores its result. -/
def firstRead? (tables : Tables) (os : List (Observation σ)) : Option (Place × σ) := os.findSome? (read? tables)

theorem observeAll_append (tables : Tables) (r : Reentrancy σ) (os os' : List (Observation σ)) :
    observeAll tables r (os ++ os') = observeAll tables (observeAll tables r os) os' :=
  List.foldl_append

theorem blocks_observeAll (tables : Tables) (r : Reentrancy σ) (os : List (Observation σ)) :
    (observeAll tables r os).blocks =
      (os.filterMap item?).foldl (fun m p => Assoc.push m p.1 p.2) r.blocks := by
  induction os generalizing r with
  | nil => rfl
  | cons o os ih =>
    rw [observeAll, List.foldl_cons, ← observeAll, ih, observe, attempt_eq, List.filterMap_cons]
    cases o.item? <;> rfl

theorem transfers_observeAll (tables : Tables) (r : Reentrancy σ) (os : List (Observation σ)) :
    (observeAll tables r os).transfers =
      (os.filterMap (transfer? tables)).foldl (fun m p => Assoc.put m p.1 p.2) r.transfers := by
  induction os generalizing r with
  | nil => rfl
  | cons o os ih =>
    rw [observeAll, List.foldl_cons, ← observeAll, ih, observe, attempt_eq, List.filterMap_cons]
    cases o.transfer? tables <;> rfl

theorem balance_observeAll (tables : Tables) (r : Reentrancy σ) (os : List (Observation σ)) :
    (observeAll tables r os).balance = r.balance.or (firstRead? tables os) := by
  induction os generalizing r with
  | nil => exact (Option.or_none).symm
  | cons o os ih =>
    rw [observeAll, List.foldl_cons, ← observeAll, ih, observe, attempt_eq, firstRead?, firstRead?,
      List.findSome?_cons, Option.or_assoc]
    cases o.read? tables <;> rfl

/-- The state after a run of observations of which nothing was known before. -/
theorem observeAll_empty (tables : Tables) (os : List (Observation σ)) :
    observeAll tables {} os =
      { blocks := Assoc.grouped (os.filterMap item?)
        transfers := Assoc.ofPairs (os.filterMap (transfer? tables))
        balance := firstRead? tables os } := by
  have hb := blocks_observeAll tables {} os
  have ht := transfers_observeAll tables {} os
  have hr := balance_observeAll tables {} os
  rw [Option.none_or] at hr
  rw [Assoc.grouped, Assoc.ofPairs, ← hb, ← ht, ← hr]

theorem get?_blocks_observeAll (tables : Tables) (os : List (Observation σ)) (block : Int) :
    Assoc.get? (observeAll tables {} os).blocks block =
      if recorded os block = [] then none else some (recorded os block) := by
  rw [observeAll_empty, Assoc.get?_grouped]
  have hmem : block ∈ (os.filterMap item?).map Prod.fst ↔ recorded os block ≠ [] := by
    simp [recorded, List.filter_eq_nil_iff]
  by_cases h : recorded os block = []
  · rw [if_pos h, if_neg (fun hm => hmem.1 hm h)]
  · rw [if_neg h, if_pos (hmem.2 h)]
    rfl

theorem get?_transfers_observeAll (tables : Tables) (os : List (Observation σ)) (block : Int) :
    Assoc.get? (observeAll tables {} os).transfers block = (transferred tables os block).getLast? := by
  rw [observeAll_empty, Assoc.get?_ofPairs]
  rfl

/-! ### The verdict -/

/-- `item` is the first of the instructions with property `p` in the blocks after `last`, by block id and then by
the order in which `items` lists the instructions of a block. -/
structure FirstAfter (items : Int → List Item) (p : Item → Bool) (last block : Int) (item : Item) : Prop where
  after : last < block
  first : (items block).find? p = some item
  earlier : ∀ other, last < other → other < block → ∀ i ∈ items other, p i = false

/-- The instructions recorded in the state for a block. -/
def itemsIn (r : Reentrancy σ) (block : Int) : List Item := (Assoc.get? r.blocks block).getD []

theorem itemsIn_of_mem {r : Reentrancy σ} (h : (r.blocks.map Prod.fst).Nodup) {e : Int × List Item}
    (he : e ∈ r.blocks) : r.itemsIn e.1 = e.2 := by
  rw [itemsIn, (Assoc.get?_eq_some_iff h).2 he, Option.getD_some]

theorem mem_blocks_of_mem_itemsIn {r : Reentrancy σ} (h : (r.blocks.map Prod.fst).Nodup) {block : Int} {item : Item}
    (hi : item ∈ r.itemsIn block) : (block, r.itemsIn block) ∈ r.blocks := by
  cases hg : Assoc.get? r.blocks block with
  | none => simp [itemsIn, hg] at hi
  | some items =>
    rw [itemsIn, hg, Option.getD_some]
    exact (Assoc.get?_eq_some_iff h).1 hg

theorem mem_itemsAfter {r : Reentrancy σ} (h : (r.blocks.map Prod.fst).Nodup) {last : Int} {item : Item} :
    item ∈ r.itemsAfter last ↔ ∃ block, last < block ∧ item ∈ r.itemsIn block := by
  simp only [itemsAfter, List.mem_flatMap, Assoc.mem_sortByKey, List.mem_filter, decide_eq_true_eq]
  constructor
  · rintro ⟨e, ⟨he, hlt⟩, hi⟩
    exact ⟨e.1, hlt, by rwa [itemsIn_of_mem h he]⟩
  · rintro ⟨block, hlt, hi⟩
    exact ⟨(block, r.itemsIn block), ⟨mem_blocks_of_mem_itemsIn h hi, hlt⟩, hi⟩

/-- The search for a write goes through the blocks in order of their ids. -/
theorem find?_itemsAfter {r : Reentrancy σ} (h : (r.blocks.map Prod.fst).Nodup) {last : Int} {p : Item → Bool}
    {item : Item} :
    (r.itemsAfter last).find? p = some item ↔ ∃ block, FirstAfter r.itemsIn p last block item := by
  have hsub : (r.blocks.filter fun b => last < b.1).Sublist r.blocks := List.filter_sublist
  have hsorted := Assoc.pairwise_sortByKey (h.sublist (hsub.map Prod.fst))
  have hmem (e : Int × List Item) :
      e ∈ Assoc.sortByKey (r.blocks.filter fun b => last < b.1) ↔ e ∈ r.blocks ∧ last < e.1 := by
    rw [Assoc.mem_sortByKey, List.mem_filter, decide_eq_true_eq]
  rw [itemsAfter, List.find?_flatMap, List.findSome?_eq_some_iff]
  constructor
  · rintro ⟨before, e, rest, hsplit, hfind, hnone⟩
    obtain ⟨he, hlt⟩ := (hmem e).1 (by rw [hsplit]; simp)
    refine ⟨e.1, hlt, by rwa [itemsIn_of_mem h he], fun other hlo hhi i hi => ?_⟩
    -- a block with a smaller id stands in front of `e`, where nothing was found
    have ho := (hmem _).2 ⟨mem_blocks_of_mem_itemsIn h hi, hlo⟩
    rw [hsplit, List.mem_append, List.mem_cons] at ho
    rw [hsplit, List.pairwise_append, List.pairwise_cons] at hsorted
    rcases ho with ho | ho | ho
    · exact Bool.eq_false_iff.2 (List.find?_eq_none.1 (hnone _ ho) i hi)
    · rw [← ho] at hhi
      exact absurd hhi (lt_irrefl _)
    · exact absurd (hsorted.2.1.1 _ ho) (by simpa using hhi.le)
  · rintro ⟨block, hlt, hfind, hearlier⟩
    have hb := mem_blocks_of_mem_itemsIn h (List.mem_of_find?_eq_some hfind)
    obtain ⟨before, rest, hsplit⟩ := List.append_of_mem ((hmem _).2 ⟨hb, hlt⟩)
    refine ⟨before, _, rest, hsplit, hfind, fun e he => List.find?_eq_none.2 fun i hi => ?_⟩
    rw [hsplit, List.pairwise_append] at hsorted
    obtain ⟨heb, hel⟩ := (hmem e).1 (by rw [hsplit]; simp [he])
    have hle : e.1 < block := hsorted.2.2 e he _ List.mem_cons_self
    rw [Bool.not_eq_true]
    exact hearlier e.1 hel hle i (by rwa [itemsIn_of_mem h heb])

theorem lastTransfer?_eq_some_iff {r : Reentrancy σ} {last : Int} :
    r.lastTransfer? = some last ↔ IsGreatest {b | b ∈ r.transfers.map Prod.fst} last := by
  rw [lastTransfer?, List.max?_eq_some_iff]
  rfl

theorem violation?_eq_some_iff {tables : Tables} {r : Reentrancy σ} (h : (r.blocks.map Prod.fst).Nodup)
    {write : Item} :
    r.violation? tables = some write ↔
      ∃ place last block, r.tracked = some place ∧ IsGreatest {b | b ∈ r.transfers.map Prod.fst} last ∧
        FirstAfter r.itemsIn (writesBalance tables (some place)) last block write := by
  simp only [← lastTransfer?_eq_some_iff]
  cases hl : r.lastTransfer? with
  | none => simp [violation?, hl]
  | some last =>
    cases ht : r.tracked with
    | none => simp [violation?, hl, ht]
    | some place => simp [violation?, hl, ht, find?_itemsAfter h]

theorem check_iff {tables : Tables} {r : Reentrancy σ} (h : (r.blocks.map Prod.fst).Nodup) :
    r.check tables = true ↔
      ∃ place last block, ∃ item ∈ r.itemsIn block, r.tracked = some place ∧
        IsGreatest {b | b ∈ r.transfers.map Prod.fst} last ∧ last < block ∧
        writesBalance tables (some place) item = true := by
  simp only [← lastTransfer?_eq_some_iff]
  cases hl : r.lastTransfer? with
  | none => simp [check, violation?, hl]
  | some last =>
    cases ht : r.tracked with
    | none => simp [check, violation?, hl, ht]
    | some place =>
      simp only [check, violation?, hl, ht, List.find?_isSome, mem_itemsAfter h, Option.some.injEq]
      constructor
      · rintro ⟨item, ⟨block, hlt, hi⟩, hw⟩
        exact ⟨place, last, block, item, hi, rfl, rfl, hlt, hw⟩
      · rintro ⟨_, _, block, item, hi, rfl, rfl, hlt, hw⟩
        exact ⟨item, ⟨block, hlt, hi⟩, hw⟩

theorem span_of_violation {tables : Tables} {r : Reentrancy Span} {write : Item}
    (h : r.violation? tables = some write) : r.span tables = (r.balanceSpan .empty).join write.span := by
  have hb : ∃ b, r.balance = some b := by
    cases hbal : r.balance with
    | none => simp [violation?, tracked, hbal] at h
    | some b => exact ⟨b, rfl⟩
  obtain ⟨b, hb⟩ := hb
  simp [span, evidence?, h, hb, balanceSpan]

theorem span_of_not_check {tables : Tables} {r : Reentrancy Span} (h : r.check tables = false) :
    r.span tables = .empty := by
  have hnone : r.violation? tables = none := by simpa [check] using h
  simp [span, evidence?, hnone]

/-! ### The verdict on a history -/

theorem nodup_blocks_observeAll (tables : Tables) (os : List (Observation σ)) :
    ((observeAll tables {} os).blocks.map Prod.fst).Nodup := by
  rw [observeAll_empty]
  exact Assoc.nodup_keys_grouped _

theorem nodup_transfers_observeAll (tables : Tables) (os : List (Observation σ)) :
    ((observeAll tables {} os).transfers.map Prod.fst).Nodup := by
  rw [observeAll_empty]
  exact Assoc.nodup_keys_ofPairs _

theorem itemsIn_observeAll (tables : Tables) (os : List (Observation σ)) :
    (observeAll tables {} os).itemsIn = recorded os := by
  funext block
  rw [itemsIn, get?_blocks_observeAll]
  split_ifs with h
  · rw [h, Option.getD_none]
  · rw [Option.getD_some]

/-- Whatever is observed in whatever order, the state is a view of the history: the instructions of each block in
order, the last callee of the transfers in each block, and the first balance read that stores its result. What is
refused changes nothing. The verdict is positive if a balance is tracked, value was transferred and the balance is
written in a block after the last transfer, and it points from the read to the first such write. -/
theorem observeAll_history (tables : Tables) (os : List (Observation Span)) :
    let r := observeAll tables {} os
    ((r.blocks.map Prod.fst).Nodup ∧ ∀ block,
      Assoc.get? r.blocks block = if recorded os block = [] then none else some (recorded os block)) ∧
    ((r.transfers.map Prod.fst).Nodup ∧ ∀ block,
      Assoc.get? r.transfers block = (transferred tables os block).getLast?) ∧
    (r.tracked = (firstRead? tables os).map Prod.fst ∧
      r.balanceSpan .empty = ((firstRead? tables os).map Prod.snd).getD .empty) ∧
    (∀ o e, (r.record tables o = .error e ↔ o.refusal? = some e) ∧
      (r.record tables o = .error e → r.observe tables o = r)) ∧
    (r.check tables = true ↔ ∃ place last block, ∃ item ∈ recorded os block, r.tracked = some place ∧
      IsGreatest {b | b ∈ r.transfers.map Prod.fst} last ∧ last < block ∧
      writesBalance tables (some place) item = true) ∧
    (r.check tables = true → ∃ place last block write, r.tracked = some place ∧
      IsGreatest {b | b ∈ r.transfers.map Prod.fst} last ∧
      FirstAfter (recorded os) (writesBalance tables (some place)) last block write ∧
      r.span tables = (r.balanceSpan .empty).join write.span) ∧
    (r.check tables = false → r.span tables = .empty) := by
  intro r
  have hd : (r.blocks.map Prod.fst).Nodup := nodup_blocks_observeAll tables os
  have hi : r.itemsIn = recorded os := itemsIn_observeAll tables os
  have hb : r.balance = firstRead? tables os := by
    simp only [r, observeAll_empty]
  refine ⟨⟨hd, get?_blocks_observeAll tables os⟩,
    ⟨nodup_transfers_observeAll tables os, get?_transfers_observeAll tables os⟩,
    ⟨by rw [tracked, hb], by rw [balanceSpan, hb]⟩,
    fun o e => ⟨record_eq_error_iff, observe_of_record_error⟩, ?_, fun h => ?_, span_of_not_check⟩
  · rw [← hi]
    exact check_iff hd
  · obtain ⟨write, hw⟩ := Option.isSome_iff_exists.1 h
    obtain ⟨place, last, block, ht, hl, hf⟩ := (violation?_eq_some_iff hd).1 hw
    exact ⟨place, last, block, write, ht, hl, hi ▸ hf, span_of_violation hw⟩

end Reentrancy

end ContractLint
