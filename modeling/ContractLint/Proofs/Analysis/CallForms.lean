import ContractLint.Proofs.Analysis.References
import ContractLint.Proofs.Dump.Blocks
import ContractLint.Proofs.Reentrancy.Simulation

/-! The two forms of a call. A call that stores its result may end its block, or it may be the source of an assignment
after which the block goes on. Turning the first form into the second leaves the flags and what is known of the balance
and the transfers as they are. The one difference is that an assignment counts as a write to the place of its result,
which the end of a block does not. -/

namespace ContractLint

open Reentrancy

/-! ### The transformation -/

/-- The block with a call at its end that stores its result turned into an assignment, and a jump to where the call
returns to, if it returns. -/
def Block.inlineCall (b : Block) : Block :=
  match b.terminator with
  | some ⟨.call callee args (some destination) target, span⟩ =>
    { b with
      statements := b.statements ++ [⟨.assign destination (.call callee args), span⟩]
      terminator := target.map fun t => ⟨.goto t, span⟩ }
  | _ => b

namespace Block

theorem exists_call_or_inlineCall_eq (b : Block) :
    (∃ callee args destination target span,
      b.terminator = some ⟨.call callee args (some destination) target, span⟩) ∨ b.inlineCall = b := by
  unfold inlineCall
  split
  · next callee args destination target span h => exact .inl ⟨callee, args, destination, target, span, h⟩
  · exact .inr rfl

theorem id_inlineCall (b : Block) : b.inlineCall.id = b.id := by
  unfold inlineCall
  split <;> rfl

variable {b : Block} {callee : Text} {args : List Operand} {destination : Place} {target : Option Int} {span : Span}

theorem items_of_call (h : b.terminator = some ⟨.call callee args (some destination) target, span⟩) :
    b.items = b.statements.map .statement ++ [.terminator ⟨.call callee args (some destination) target, span⟩] := by
  simp only [items, h, Option.toList_some, List.map_cons, List.map_nil]

theorem items_inlineCall (h : b.terminator = some ⟨.call callee args (some destination) target, span⟩) :
    b.inlineCall.items = b.statements.map .statement ++
      .statement ⟨.assign destination (.call callee args), span⟩ ::
        target.toList.map fun t => .terminator ⟨.goto t, span⟩ := by
  cases target <;> simp [inlineCall, h, items]

/-- What is collected from a block stays the same, if the same comes from both forms of a call and nothing comes from
a jump. -/
theorem flatMap_items_inlineCall {α : Type} (b : Block) {view : Item → List α}
    (hcall : ∀ callee args destination target span,
      view (.statement ⟨.assign destination (.call callee args), span⟩) =
        view (.terminator ⟨.call callee args (some destination) target, span⟩))
    (hjump : ∀ target span, view (.terminator ⟨.goto target, span⟩) = []) :
    b.inlineCall.items.flatMap view = b.items.flatMap view := by
  obtain ⟨callee, args, destination, target, span, h⟩ | h := b.exists_call_or_inlineCall_eq
  · have hrest : (target.toList.map fun t => Item.terminator ⟨.goto t, span⟩).flatMap view = [] := by
      cases target <;> simp [hjump]
    rw [items_inlineCall h, items_of_call h, List.flatMap_append, List.flatMap_append, List.flatMap_cons, hrest,
      hcall callee args destination target span, List.flatMap_singleton, List.append_nil]
  · rw [h]

/-- The only new write in a block is that of the assignment: neither a call at the end nor a jump writes. -/
theorem any_writesBalance_inlineCall
    (h : b.terminator = some ⟨.call callee args (some destination) target, span⟩) (tables : Tables) (place : Place) :
    b.inlineCall.items.any (writesBalance tables (some place)) = true ↔
      b.items.any (writesBalance tables (some place)) = true ∨
        (tables.table .balanceRead).covers callee = false ∧ destination.base = place.base := by
  have hassign : writesBalance tables (some place) (.statement ⟨.assign destination (.call callee args), span⟩) = true ↔
      (tables.table .balanceRead).covers callee = false ∧ destination.base = place.base := by
    simp [writesBalance, Place.sameLocation]
  have hend : [Item.terminator ⟨.call callee args (some destination) target, span⟩].any
      (writesBalance tables (some place)) = false := rfl
  have hjump : (target.toList.map fun t => Item.terminator ⟨.goto t, span⟩).any
      (writesBalance tables (some place)) = false := by
    cases target <;> rfl
  rw [items_inlineCall h, items_of_call h, List.any_append, List.any_append, List.any_cons, hend, hjump,
    Bool.or_false, Bool.or_false, Bool.or_eq_true, hassign]

end Block

/-- The function with the call at the end of a block turned into an assignment. -/
def Body.inlineCall (body : Body) (id : Int) : Body where
  name := body.name
  span := body.span
  blocks := body.blocks.map fun b => if b.id = id then b.inlineCall else b
  ordered := by
    have hid (b : Block) : (if b.id = id then b.inlineCall else b).id = b.id := by
      split_ifs
      · exact b.id_inlineCall
      · rfl
    rw [List.pairwise_map]
    simp only [hid]
    exact body.ordered

namespace Body

variable (body : Body) (id : Int)

/-- The same for what is collected from a function. -/
theorem flatMap_visited_inlineCall {α : Type} {view : Int × Item → List α}
    (hcall : ∀ id callee args destination target span,
      view (id, .statement ⟨.assign destination (.call callee args), span⟩) =
        view (id, .terminator ⟨.call callee args (some destination) target, span⟩))
    (hjump : ∀ id target span, view (id, .terminator ⟨.goto target, span⟩) = []) :
    (body.inlineCall id).visited.flatMap view = body.visited.flatMap view := by
  rw [flatMap_visited, flatMap_visited, inlineCall, List.flatMap_map]
  congr 1
  funext b
  split_ifs
  · rw [b.id_inlineCall]
    exact b.flatMap_items_inlineCall (hcall b.id) (hjump b.id)
  · rfl

theorem uses_inlineCall : (body.inlineCall id).uses = body.uses := by
  rw [uses_eq_filterMap, uses_eq_filterMap, List.filterMap_eq_flatMap_toList, List.filterMap_eq_flatMap_toList]
  exact flatMap_visited_inlineCall body id (fun _ _ _ _ _ _ => rfl) fun _ _ _ => rfl

theorem reads_inlineCall (tables : Tables) : (body.inlineCall id).reads tables = body.reads tables := by
  rw [reads, reads, List.filterMap_eq_flatMap_toList, List.filterMap_eq_flatMap_toList]
  exact flatMap_visited_inlineCall body id (fun _ _ _ _ _ _ => rfl) fun _ _ _ => rfl

theorem transfers_inlineCall (tables : Tables) :
    (body.inlineCall id).observations.filterMap (Observation.transfer? tables) =
      body.observations.filterMap (Observation.transfer? tables) := by
  have hvisited (body : Body) : body.observations.filterMap (Observation.transfer? tables) =
      body.visited.flatMap fun x => (x.2.observations x.1).filterMap (Observation.transfer? tables) := by
    simp only [flatMap_visited, observations, List.filterMap_flatMap]
  rw [hvisited, hvisited]
  exact flatMap_visited_inlineCall body id (fun _ _ _ _ _ _ => rfl) fun _ _ _ => rfl

/-- The state in which the reentrancy detector ends differs in the recorded instructions alone. -/
theorem observeAll_inlineCall (tables : Tables) :
    (observeAll tables {} (body.inlineCall id).observations).balance =
        (observeAll tables {} body.observations).balance ∧
      (observeAll tables {} (body.inlineCall id).observations).transfers =
        (observeAll tables {} body.observations).transfers := by
  constructor
  · rw [balance_observeAll, balance_observeAll, reads_inlineCall]
  · rw [observeAll_empty, observeAll_empty, transfers_inlineCall]

theorem check_observeAll_iff_blocks {tables : Tables} {body : Body} :
    (observeAll tables {} body.observations).check tables = true ↔
      ∃ place last, (observeAll tables {} body.observations).tracked = some place ∧
        (observeAll tables {} body.observations).lastTransfer? = some last ∧
        ∃ b ∈ body.blocks, last < b.id ∧ b.items.any (writesBalance tables (some place)) = true := by
  rw [check_iff (nodup_blocks_observeAll ..), itemsIn_observeAll]
  simp only [← lastTransfer?_eq_some_iff, mem_recorded_observations, List.any_eq_true]
  constructor
  · rintro ⟨place, last, _, item, ⟨b, hb, rfl, hitem⟩, ht, hl, hlt, hw⟩
    exact ⟨place, last, ht, hl, b, hb, hlt, item, hitem, hw⟩
  · rintro ⟨place, last, ht, hl, b, hb, hlt, item, hitem, hw⟩
    exact ⟨place, last, b.id, item, ⟨b, hb, rfl, hitem⟩, ht, hl, hlt, hw⟩

variable {body id} {b : Block} {callee : Text} {args : List Operand} {destination : Place} {target : Option Int}
  {span : Span}

theorem exists_write_inlineCall (mem : b ∈ body.blocks)
    (call : b.terminator = some ⟨.call callee args (some destination) target, span⟩) (tables : Tables) (place : Place)
    (last : Int) :
    (∃ a ∈ (body.inlineCall b.id).blocks, last < a.id ∧ a.items.any (writesBalance tables (some place)) = true) ↔
      (∃ a ∈ body.blocks, last < a.id ∧ a.items.any (writesBalance tables (some place)) = true) ∨
        (tables.table .balanceRead).covers callee = false ∧ destination.base = place.base ∧ last < b.id := by
  have hwrites := Block.any_writesBalance_inlineCall call tables place
  -- ids are unique, so `b` is the one block that changes
  have hunique (a : Block) (ha : a ∈ body.blocks) (hid : a.id = b.id) : a = b :=
    List.inj_on_of_nodup_map body.nodup_ids ha mem hid
  constructor
  · rintro ⟨a', ha', hlt, hw⟩
    obtain ⟨a, ha, rfl⟩ := List.mem_map.1 ha'
    split_ifs at hlt hw with hid
    · obtain rfl := hunique a ha hid
      rw [a.id_inlineCall] at hlt
      obtain hw | ⟨hcallee, hbase⟩ := hwrites.1 hw
      · exact .inl ⟨a, ha, hlt, hw⟩
      · exact .inr ⟨hcallee, hbase, hlt⟩
    · exact .inl ⟨a, ha, hlt, hw⟩
  · have hb : b.inlineCall ∈ (body.inlineCall b.id).blocks := List.mem_map.2 ⟨b, mem, if_pos rfl⟩
    rintro (⟨a, ha, hlt, hw⟩ | ⟨hcallee, hbase, hlt⟩)
    · by_cases hid : a.id = b.id
      · obtain rfl := hunique a ha hid
        exact ⟨_, hb, a.id_inlineCall.symm ▸ hlt, hwrites.2 (.inl hw)⟩
      · exact ⟨a, List.mem_map.2 ⟨a, ha, if_neg hid⟩, hlt, hw⟩
    · exact ⟨_, hb, b.id_inlineCall.symm ▸ hlt, hwrites.2 (.inr ⟨hcallee, hbase⟩)⟩

/-- The verdict on reentrancy changes by the write of the assignment and by nothing else. -/
theorem check_inlineCall (mem : b ∈ body.blocks)
    (call : b.terminator = some ⟨.call callee args (some destination) target, span⟩) (tables : Tables) :
    (observeAll tables {} (body.inlineCall b.id).observations).check tables = true ↔
      (observeAll tables {} body.observations).check tables = true ∨
        ∃ place last, (observeAll tables {} body.observations).tracked = some place ∧
          (observeAll tables {} body.observations).lastTransfer? = some last ∧
          (tables.table .balanceRead).covers callee = false ∧ destination.base = place.base ∧ last < b.id := by
  obtain ⟨hbalance, htransfers⟩ := body.observeAll_inlineCall b.id tables
  have htracked : (observeAll tables {} (body.inlineCall b.id).observations).tracked =
      (observeAll tables {} body.observations).tracked := congrArg (Option.map Prod.fst) hbalance
  have hlast : (observeAll tables {} (body.inlineCall b.id).observations).lastTransfer? =
      (observeAll tables {} body.observations).lastTransfer? := by
    rw [lastTransfer?, lastTransfer?, htransfers]
  simp only [check_observeAll_iff_blocks, htracked, hlast, exists_write_inlineCall mem call, and_or_left, exists_or]

end Body

/-! ### The report -/

namespace Checker

theorem triggered_reentrancy {c : Checker} {body : Body} {report : Report} (on : .reentrancy ∈ c.enabled)
    (h : c.visit body = .ok report) :
    report.triggered .reentrancy = (observeAll c.tables {} body.observations).check c.tables := by
  rw [Report.triggered, finding?_reentrancy on h]
  rfl

/-- A call at the end of a block that stores its result may be turned into an assignment with a jump after it, and the
report stays the same up to one case. The flags find the same, and the same balance and transfers are seen. Reentrancy
is found if it was found before, or if the call, which reads no balance, stores into the tracked variable in a block
after the last transfer. -/
theorem visit_inlineCall (c : Checker) (body : Body) {b : Block} (mem : b ∈ body.blocks) {callee : Text}
    {args : List Operand} {destination : Place} {target : Option Int} {span : Span}
    (call : b.terminator = some ⟨.call callee args (some destination) target, span⟩)
    (texts : ∀ path ∈ body.constantPaths, path = .null ∨ ∃ s, path = .string s) :
    let r := observeAll c.tables {} body.observations
    let r' := observeAll c.tables {} (body.inlineCall b.id).observations
    ∃ report report', c.visit body = .ok report ∧ c.visit (body.inlineCall b.id) = .ok report' ∧
      (∀ f : FlagKind, report'.finding? f.detector = report.finding? f.detector) ∧
      (r'.tracked = r.tracked ∧ r'.balanceSpan .empty = r.balanceSpan .empty ∧ r'.transfers = r.transfers) ∧
      (.reentrancy ∈ c.enabled → (report'.triggered .reentrancy = true ↔ report.triggered .reentrancy = true ∨
        ∃ place last, r.tracked = some place ∧ r.lastTransfer? = some last ∧
          (c.tables.table .balanceRead).covers callee = false ∧ destination.base = place.base ∧ last < b.id)) := by
  intro r r'
  obtain ⟨report, hreport⟩ := c.exists_visit_of_texts texts
  obtain ⟨findings, hfindings, hr⟩ := Outcome.bind_eq_ok.1 hreport
  have hreport' : c.visit (body.inlineCall b.id) =
      .ok ⟨body.name, c.reentrancyFindings (body.inlineCall b.id) ++ findings⟩ := by
    rw [visit, c.flagFindings_congr (body.uses_inlineCall b.id), hfindings]
    rfl
  obtain ⟨hbalance, htransfers⟩ := body.observeAll_inlineCall b.id c.tables
  refine ⟨report, _, hreport, hreport', fun f => ?_, ⟨?_, ?_, htransfers⟩, fun on => ?_⟩
  · obtain rfl := Outcome.pure_eq_ok.1 hr
    rw [Report.finding?, Report.finding?, List.find?_append, List.find?_append, find?_reentrancyFindings,
      find?_reentrancyFindings]
  · exact congrArg (Option.map Prod.fst) hbalance
  · rw [balanceSpan, balanceSpan, hbalance]
  · rw [triggered_reentrancy on hreport, triggered_reentrancy on hreport']
    exact Body.check_inlineCall mem call c.tables

/-- A block that ends with a call which stores into the place of a balance. -/
def refreshing : Block where
  id := 3
  statements := [⟨.storageLive 4, {}⟩]
  terminator := some ⟨.call "refresh" [.copy ⟨1, []⟩] (some ⟨1, [.deref]⟩) (some 5), { lo := 40, hi := 50, line := 5 }⟩

/-- A payment after which the balance is refreshed. -/
def payment : Body where
  name := "payment"
  blocks :=
    [{ id := 0
       terminator := some ⟨.call "Map::get" [] (some ⟨1, []⟩) (some 2), { lo := 10, hi := 20, line := 2 }⟩ },
     { id := 2
       terminator := some ⟨.call "pay" [] none (some 3), {}⟩ },
     refreshing,
     { id := 5
       terminator := some ⟨.ret, {}⟩ }]
  ordered := by decide

theorem visit_inlineCall_payment :
    refreshing ∈ payment.blocks ∧
    (∀ path ∈ payment.constantPaths, path = .null ∨ ∃ s, path = .string s) ∧
    ∃ report report', ofWithdrawal.visit payment = .ok report ∧
      ofWithdrawal.visit (payment.inlineCall refreshing.id) = .ok report' ∧
      report.triggered .reentrancy = false ∧ report'.triggered .reentrancy = true := by
  have mem : refreshing ∈ payment.blocks := .tail _ (.tail _ (.head _))
  have texts : ∀ path ∈ payment.constantPaths, path = .null ∨ ∃ s, path = .string s := by
    have h : payment.constantPaths = [] := rfl
    simp [h]
  refine ⟨mem, texts, ?_⟩
  obtain ⟨report, report', hreport, hreport', -, -, htriggered⟩ :=
    visit_inlineCall ofWithdrawal payment mem rfl texts
  refine ⟨report, report', hreport, hreport', ?_, ?_⟩
  · have hv : (ofWithdrawal.visit payment).map (·.triggered .reentrancy) = .ok false := by decide +kernel
    rw [hreport] at hv
    exact Except.ok.inj hv
  · refine (htriggered (by decide)).2 (.inr ⟨⟨1, []⟩, 2, ?_⟩)
    decide +kernel

end Checker

end ContractLint
