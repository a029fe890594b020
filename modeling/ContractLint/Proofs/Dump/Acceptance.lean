import ContractLint.Proofs.Dump.Blocks

/-! Which functions are accepted. Blocks are converted one by one, entered under the integers that their ids stand for
and checked for successors that are missing; together this accepts just the lists whose blocks convert, differ in
their ids and lead only to each other. -/

namespace ContractLint.Dump

open Outcome

variable {c : Context} {v : Value}

theorem exists_functionSpan_ok (h : ∀ x, v.given? "span" = some x → ∃ s, span c x = .ok s) :
    ∃ s, functionSpan c v = .ok s := by
  unfold functionSpan
  cases hv : v.given? "span" with
  | none => exact ⟨.empty, rfl⟩
  | some x => exact h x hv

/-- A block goes under the integer that its id stands for. -/
theorem id_of_block {b : Block} (h : block c v = .ok b) : ∃ id, v.get? "id" = some id ∧ id.toInt = .ok b.id := by
  simp only [block, blockId, Context.requireInt, bind_eq_ok, Context.require_eq_ok, convert_eq_ok, pure_eq_ok] at h
  obtain ⟨n, ⟨id, hid, hn⟩, _, _, _, _, _, _, rfl⟩ := h
  exact ⟨id, hid, hn⟩

example : [Value.int 1, .ofString "1", .bool true, .float (.finite false 3 (-1))].map Value.toInt =
    List.replicate 4 (.ok 1) := by
  decide

/-- The blocks of an accepted function are those that its list converts to, in increasing order of ids. -/
theorem function_accepts_iff {file name : Value} {xs : List Value} (hname : v.get? "name" = some name)
    (hspan : ∀ x, v.given? "span" = some x → ∃ s, span (functionContext file name) x = .ok s)
    (hblocks : v.get? "blocks" = some (.array xs)) :
    ((∃ body, function file v = .ok body) ↔
      ∃ bs, Converts (functionContext file name) xs bs ∧ (bs.map Block.id).Nodup ∧ Block.Closed bs) ∧
    (∀ body, function file v = .ok body →
      (∃ bs, Converts (functionContext file name) xs bs ∧ body.blocks.Perm bs) ∧ body.ids.Pairwise (· < ·) ∧
        body.blocks.length = xs.length) ∧
    ∀ x b, block (functionContext file name) x = .ok b → ∃ id, x.get? "id" = some id ∧ id.toInt = .ok b.id := by
  have hgraph : ∀ body, function file v = .ok body →
      ∃ bs, Converts (functionContext file name) xs bs ∧ body.blocks.Perm bs ∧ Block.Closed bs := by
    intro body hbody
    obtain ⟨name', blocks, hname', hblocks', -, -, hg⟩ := function_eq_ok.1 hbody
    obtain rfl : name = name' := Option.some.inj (hname.symm.trans hname')
    obtain rfl : .array xs = blocks := Option.some.inj (hblocks.symm.trans hblocks')
    obtain ⟨xs', bs, hxs, hbs, hperm, hclosed⟩ := graph_eq_ok.1 hg
    obtain rfl : xs = xs' := Option.some.inj hxs
    exact ⟨bs, hbs, hperm, hclosed⟩
  refine ⟨⟨?_, ?_⟩, ?_, fun x b h => id_of_block h⟩
  · rintro ⟨body, hbody⟩
    obtain ⟨bs, hbs, hperm, hclosed⟩ := hgraph body hbody
    exact ⟨bs, hbs, (hperm.map Block.id).nodup_iff.1 body.nodup_ids, hclosed⟩
  · rintro ⟨bs, hbs, hnodup, hclosed⟩
    have hparts : (Value.array xs).parts? = some xs := rfl
    obtain ⟨g, hg⟩ := exists_graph_ok hparts hbs hnodup hclosed
    obtain ⟨s, hs⟩ := exists_functionSpan_ok hspan
    exact ⟨⟨g, name.display, s⟩, function_eq_ok.2 ⟨name, .array xs, hname, hblocks, rfl, hs, hg⟩⟩
  · intro body hbody
    obtain ⟨bs, hbs, hperm, -⟩ := hgraph body hbody
    refine ⟨⟨bs, hbs, hperm⟩, List.pairwise_map.2 body.ordered, ?_⟩
    rw [hperm.length_eq, hbs.length_eq]

/-- A function without a span, of a block that leads to 0 and an empty one under the given id. -/
def jumpBefore (id : Value) : Value :=
  let jump := .record [("kind", .ofString "Goto"), ("span", .record []), ("target", .int 0)]
  .record [("name", .ofString "f"), ("span", .null),
    ("blocks", .array [.record [("id", .ofString "1"), ("terminator", jump)], .record [("id", id)]])]

/-- An id in another form is refused if it stands for an integer that is taken, and else closes the graph. -/
theorem function_accepts_iff_jumpBefore :
    (¬ ∃ body, function .null (jumpBefore (.bool true)) = .ok body) ∧
      ∃ body, function .null (jumpBefore (.bool false)) = .ok body := by
  have hspan (id : Value) : ∀ x, (jumpBefore id).given? "span" = some x →
      ∃ s, span (functionContext .null (.ofString "f")) x = .ok s := by
    intro x hx
    have hnull : (jumpBefore id).given? "span" = none := rfl
    rw [hnull] at hx
    cases hx
  constructor
  · intro h
    obtain ⟨bs, hbs, hnodup, -⟩ := (function_accepts_iff rfl (hspan _) rfl).1.1 h
    obtain rfl := hbs.unique (.cons rfl (.cons rfl .nil))
    exact absurd hnodup (by decide)
  · refine (function_accepts_iff rfl (hspan _) rfl).1.2 ⟨_, .cons rfl (.cons rfl .nil), by decide, ?_⟩
    simp [Block.Closed, Block.successors, TerminatorKind.successors]

end ContractLint.Dump
