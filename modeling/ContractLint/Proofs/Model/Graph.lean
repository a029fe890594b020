import ContractLint.Proofs.Dump.Blocks

/-! Graphs that are built block by block. A block whose id is taken is refused and changes nothing, so that under each
id stands the first block that came with it. The edges of a graph are read off its terminators: successors of one block,
and predecessors of any id whether or not it is a block. The two views are inverse to each other, and a graph is valid if
every id with a predecessor is a block of it. -/

namespace ContractLint

/-! ### Edges -/

/-- Control may pass from a terminator to the block `id`. -/
inductive TerminatorKind.Targets (id : Int) : TerminatorKind → Prop
  | goto : Targets id (.goto id)
  | case (discriminant : Operand) {targets : List (Int × Int)} {value : Int} (otherwise : Option Int)
      (listed : (value, id) ∈ targets) : Targets id (.switchInt discriminant targets otherwise)
  | otherwise (discriminant : Operand) (targets : List (Int × Int)) :
      Targets id (.switchInt discriminant targets (some id))
  | call (callee : Text) (args : List Operand) (destination : Option Place) :
      Targets id (.call callee args destination (some id))
  | assert (guard : Guard) (condition : Option Operand) (expected : Bool) :
      Targets id (.assert guard condition expected (some id))

theorem TerminatorKind.mem_successors_iff {k : TerminatorKind} {id : Int} : id ∈ k.successors ↔ k.Targets id := by
  constructor
  · intro h
    cases k with
    | goto target =>
      obtain rfl := List.mem_singleton.1 h
      exact .goto
    | switchInt discriminant targets otherwise =>
      rcases List.mem_append.1 h with h | h
      · obtain ⟨x, hx, rfl⟩ := List.mem_map.1 h
        exact .case discriminant otherwise hx
      · obtain rfl := Option.mem_toList.1 h
        exact .otherwise discriminant targets
    | call callee args destination target =>
      obtain rfl := Option.mem_toList.1 h
      exact .call callee args destination
    | assert guard condition expected target =>
      obtain rfl := Option.mem_toList.1 h
      exact .assert guard condition expected
    | ret => exact absurd h List.not_mem_nil
    | unreachable => exact absurd h List.not_mem_nil
  · intro h
    cases h with
    | goto => exact List.mem_cons_self
    | case discriminant otherwise listed => exact List.mem_append_left _ (List.mem_map_of_mem listed)
    | otherwise discriminant targets => exact List.mem_append_right _ List.mem_cons_self
    | call callee args destination => exact List.mem_cons_self
    | assert guard condition expected => exact List.mem_cons_self

/-- Control may pass from a block to the block `id`. -/
def Block.LeadsTo (b : Block) (id : Int) : Prop := ∃ t, b.terminator = some t ∧ t.kind.Targets id

theorem Block.mem_successors_iff {b : Block} {id : Int} : id ∈ b.successors ↔ b.LeadsTo id := by
  rw [successors, LeadsTo]
  cases b.terminator with
  | none => simp
  | some t => simp [TerminatorKind.mem_successors_iff]

namespace Graph

variable {g : Graph} {b : Block} {id : Int}

/-- There is one block at most under an id. -/
theorem block?_eq_some_iff : g.block? id = some b ↔ b ∈ g.blocks ∧ b.id = id := by
  constructor
  · intro h
    exact ⟨List.mem_of_find?_eq_some h, by simpa using List.find?_some h⟩
  · rintro ⟨hb, rfl⟩
    obtain ⟨front, rest, hsplit⟩ := List.append_of_mem hb
    have hordered := g.ordered
    rw [hsplit, List.pairwise_append] at hordered
    have hfront : front.find? (·.id = b.id) = none := by
      rw [List.find?_eq_none]
      intro a ha heq
      have hlt := hordered.2.2 a ha b List.mem_cons_self
      rw [decide_eq_true_eq] at heq
      omega
    rw [block?, hsplit, List.find?_append, hfront, Option.none_or, List.find?_cons_of_pos (by simp)]

theorem exists_block? (h : id ∈ g.ids) : ∃ b, g.block? id = some b := by
  obtain ⟨b, hb, hid⟩ := List.mem_map.1 h
  exact ⟨b, block?_eq_some_iff.2 ⟨hb, hid⟩⟩

theorem mem_successors_iff {p : Int} : id ∈ g.successors p ↔ ∃ b ∈ g.blocks, b.id = p ∧ id ∈ b.successors := by
  rw [successors]
  cases h : g.block? p with
  | none =>
    refine iff_of_false List.not_mem_nil ?_
    rintro ⟨b, hb, hid, -⟩
    rw [block?_eq_some_iff.2 ⟨hb, hid⟩] at h
    cases h
  | some a =>
    rw [Option.map_some, Option.getD_some]
    constructor
    · intro hs
      obtain ⟨ha, hid⟩ := block?_eq_some_iff.1 h
      exact ⟨a, ha, hid, hs⟩
    · rintro ⟨b, hb, hid, hs⟩
      rw [block?_eq_some_iff.2 ⟨hb, hid⟩] at h
      obtain rfl := Option.some.inj h
      exact hs

theorem mem_predecessors {p : Int} : p ∈ g.predecessors id ↔ ∃ b ∈ g.blocks, b.id = p ∧ id ∈ b.successors := by
  simp only [predecessors, List.mem_map, List.mem_filter, List.contains_iff_mem]
  constructor
  · rintro ⟨b, ⟨hb, hs⟩, hid⟩
    exact ⟨b, hb, hid, hs⟩
  · rintro ⟨b, hb, hid, hs⟩
    exact ⟨b, ⟨hb, hs⟩, hid⟩

/-- Predecessors are the blocks of which an id is a successor. -/
theorem mem_predecessors_iff {p : Int} : p ∈ g.predecessors id ↔ p ∈ g.ids ∧ id ∈ g.successors p := by
  rw [mem_predecessors, mem_successors_iff]
  constructor
  · rintro ⟨b, hb, hid, hs⟩
    exact ⟨List.mem_map.2 ⟨b, hb, hid⟩, b, hb, hid, hs⟩
  · rintro ⟨-, h⟩
    exact h

/-- Each block is a predecessor once, however many of its targets an id is. -/
theorem pairwise_predecessors (g : Graph) (id : Int) : (g.predecessors id).Pairwise (· < ·) :=
  List.pairwise_map.2 (g.ordered.filter _)

theorem closed_iff_predecessors : Block.Closed g.blocks ↔ ∀ id, g.predecessors id ≠ [] → id ∈ g.ids := by
  constructor
  · intro h id hne
    obtain ⟨p, hp⟩ := List.exists_mem_of_ne_nil _ hne
    obtain ⟨b, hb, -, hs⟩ := mem_predecessors.1 hp
    exact h b hb id hs
  · intro h b hb s hs
    exact h s (List.ne_nil_of_mem (mem_predecessors.2 ⟨b, hb, rfl, hs⟩))

/-! ### One block more -/

/-- The graph after an attempt to add a block. -/
def enter (g : Graph) (b : Block) : Graph := (g.add? b).getD g

/-- The graph after attempts to add blocks in turn. -/
def enterAll (g : Graph) (bs : List Block) : Graph := bs.foldl enter g

theorem add?_of_mem (h : b.id ∈ g.ids) : g.add? b = none := by
  obtain ⟨a, ha, hid⟩ := List.mem_map.1 h
  rw [add?, dif_neg]
  exact fun fresh => fresh a ha hid

theorem exists_add? (h : b.id ∉ g.ids) : ∃ g', g.add? b = some g' ∧ g'.blocks = b.insert g.blocks := by
  have fresh : ∀ c ∈ g.blocks, c.id ≠ b.id := fun c hc hid => h (List.mem_map.2 ⟨c, hc, hid⟩)
  exact ⟨_, dif_pos fresh, rfl⟩

theorem enter_of_mem (h : b.id ∈ g.ids) : g.enter b = g := by
  rw [enter, add?_of_mem h, Option.getD_none]

theorem blocks_enter (h : b.id ∉ g.ids) : (g.enter b).blocks = b.insert g.blocks := by
  obtain ⟨g', hg', hblocks⟩ := exists_add? h
  rw [enter, hg', Option.getD_some, hblocks]

theorem addBlock_of_mem (c : Dump.Context) (h : b.id ∈ g.ids) :
    Dump.addBlock c g b = .error (.malformed ⟨.duplicateBlock, ⟨c.function, some b.id⟩⟩) := by
  rw [Dump.addBlock, add?_of_mem h]
  rfl

theorem addBlock_of_not_mem (c : Dump.Context) (h : b.id ∉ g.ids) : Dump.addBlock c g b = .ok (g.enter b) := by
  obtain ⟨g', hg', -⟩ := exists_add? h
  rw [Dump.addBlock, enter, hg']
  rfl

theorem mem_blocks_enter {a : Block} : a ∈ (g.enter b).blocks ↔ a ∈ g.blocks ∨ a = b ∧ b.id ∉ g.ids := by
  by_cases h : b.id ∈ g.ids
  · simp [enter_of_mem h, h]
  · simp [blocks_enter h, Block.mem_insert, h, or_comm]

/-- Under each id stays the block that was there first. -/
theorem block?_enter (g : Graph) (b : Block) (id : Int) :
    (g.enter b).block? id = (g.blocks ++ [b]).find? (·.id = id) := by
  ext a
  rw [List.find?_append, ← block?, block?_eq_some_iff, mem_blocks_enter]
  cases hfirst : g.block? id with
  | some first =>
    -- the id is taken, so that no other block comes under it
    obtain ⟨hmem, hid⟩ := block?_eq_some_iff.1 hfirst
    have htaken : id ∈ g.ids := List.mem_map.2 ⟨first, hmem, hid⟩
    rw [Option.some_or, ← hfirst, block?_eq_some_iff]
    constructor
    · rintro ⟨ha | ⟨rfl, hnew⟩, haid⟩
      · exact ⟨ha, haid⟩
      · exact absurd (haid ▸ htaken) hnew
    · rintro ⟨ha, haid⟩
      exact ⟨.inl ha, haid⟩
  | none =>
    have hfree : id ∉ g.ids := by
      intro hmem
      obtain ⟨first, hsome⟩ := exists_block? hmem
      rw [hfirst] at hsome
      cases hsome
    rw [Option.none_or, List.find?_singleton, Option.ite_none_right_eq_some, decide_eq_true_eq, Option.some_inj]
    constructor
    · rintro ⟨ha | ⟨rfl, -⟩, haid⟩
      · exact absurd (List.mem_map.2 ⟨a, ha, haid⟩) hfree
      · exact ⟨haid, rfl⟩
    · rintro ⟨hid, rfl⟩
      exact ⟨.inr ⟨rfl, hid ▸ hfree⟩, hid⟩

theorem block?_enterAll (g : Graph) (bs : List Block) (id : Int) :
    (g.enterAll bs).block? id = (g.blocks ++ bs).find? (·.id = id) := by
  induction bs generalizing g with
  | nil => rw [List.append_nil]; rfl
  | cons b bs ih =>
    have hstep : (g.enter b).blocks.find? (·.id = id) = (g.blocks ++ [b]).find? (·.id = id) := block?_enter g b id
    rw [enterAll, List.foldl_cons, ← enterAll, ih, List.find?_append, hstep, ← List.find?_append, List.append_assoc,
      List.singleton_append]

/-- A graph to which blocks are added one after another. A block whose id is taken is refused as a duplicate and leaves
the graph as it is, and any other is added. So the ids increase, and under each of them stands the first block that
came with it. The predecessors of an id, which need not be a block, are the blocks of which it is a successor, each
of them once and in order; it is a successor of a block if the terminator of that block targets it. The graph is
valid if every id with a predecessor is a block. -/
theorem enterAll_history (c : Dump.Context) (start : Graph) (bs : List Block) :
    let g := start.enterAll bs
    (∀ b, b.id ∈ g.ids → start.enterAll (bs ++ [b]) = g ∧
      Dump.addBlock c g b = .error (.malformed ⟨.duplicateBlock, ⟨c.function, some b.id⟩⟩)) ∧
    (∀ b, b.id ∉ g.ids → (start.enterAll (bs ++ [b])).blocks.Perm (b :: g.blocks) ∧
      Dump.addBlock c g b = .ok (start.enterAll (bs ++ [b]))) ∧
    (g.ids.Pairwise (· < ·) ∧ ∀ b, b ∈ g.blocks ↔ (start.blocks ++ bs).find? (·.id = b.id) = some b) ∧
    (∀ p id, p ∈ g.predecessors id ↔ p ∈ g.ids ∧ id ∈ g.successors p) ∧
    (∀ id, (g.predecessors id).Pairwise (· < ·)) ∧
    (∀ p id, id ∈ g.successors p ↔ ∃ b ∈ g.blocks, b.id = p ∧ b.LeadsTo id) ∧
    (Dump.validate c g = .ok () ↔ ∀ id, g.predecessors id ≠ [] → id ∈ g.ids) := by
  intro g
  have hnext (b : Block) : start.enterAll (bs ++ [b]) = g.enter b := List.foldl_concat ..
  refine ⟨fun b hb => ?_, fun b hb => ?_, ⟨List.pairwise_map.2 g.ordered, fun b => ?_⟩,
    fun p id => mem_predecessors_iff, g.pairwise_predecessors, fun p id => ?_, ?_⟩
  · rw [hnext]
    exact ⟨enter_of_mem hb, addBlock_of_mem c hb⟩
  · rw [hnext, blocks_enter hb]
    exact ⟨b.insert_perm g.blocks, addBlock_of_not_mem c hb⟩
  · rw [← block?_enterAll, block?_eq_some_iff]
    exact (and_iff_left rfl).symm
  · simp only [mem_successors_iff, Block.mem_successors_iff]
  · rw [Dump.validate_eq_ok, closed_iff_predecessors]

example :
    let switch : Terminator := ⟨.switchInt .unit [(0, 1), (7, 1), (9, 5)] (some 1), {}⟩
    let g := enterAll ⟨[], .nil⟩ [{ id := 2, terminator := some switch }, { id := 1 }, { id := 2 }]
    g.ids = [1, 2] ∧ g.predecessors 1 = [2] ∧ g.predecessors 5 = [2] := by
  decide

end Graph

end ContractLint
