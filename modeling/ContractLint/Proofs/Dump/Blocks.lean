import ContractLint.Dump.Program
import ContractLint.Proofs.Dump.Fields

/-! What a function and a program are loaded from. The blocks of a function are those that the elements of its list
load to, put in order; they differ in their ids and lead only to each other. -/

namespace ContractLint

open Outcome

namespace Block

theorem insert_perm (b : Block) (blocks : List Block) : (b.insert blocks).Perm (b :: blocks) := by
  induction blocks with
  | nil => exact .refl _
  | cons a rest ih =>
    rw [insert]
    split_ifs with h
    · exact .refl _
    · exact (ih.cons a).trans (.swap b a rest)

/-- Control passes from the blocks only to each other. -/
def Closed (blocks : List Block) : Prop := ∀ b ∈ blocks, ∀ s ∈ b.successors, s ∈ blocks.map Block.id

theorem Closed.of_perm {blocks blocks' : List Block} (h : Closed blocks) (hperm : blocks.Perm blocks') :
    Closed blocks' := by
  intro b hb s hs
  have hid : s ∈ blocks.map Block.id := h b (hperm.mem_iff.2 hb) s hs
  exact (hperm.map Block.id).mem_iff.1 hid

end Block

namespace Graph

theorem eq_of_blocks {g g' : Graph} (h : g.blocks = g'.blocks) : g = g' := by
  cases g
  cases g'
  cases h
  rfl

theorem dangling?_eq_none_iff (g : Graph) : g.dangling? = none ↔ Block.Closed g.blocks := by
  simp only [dangling?, List.findSome?_eq_none_iff, Option.map_eq_none_iff, List.find?_eq_none, Bool.not_eq_true',
    Bool.not_eq_false, List.contains_iff_mem]
  rfl

/-- The order of the ids leaves no choice for the order of the blocks. -/
theorem eq_of_perm {g g' : Graph} (h : g.blocks.Perm g'.blocks) : g = g' := by
  apply eq_of_blocks
  apply h.eq_of_pairwise _ g.ordered g'.ordered
  intro a b _ _ hab hba
  omega

theorem nodup_ids (g : Graph) : (g.blocks.map Block.id).Nodup := by
  rw [List.Nodup, List.pairwise_map]
  exact g.ordered.imp fun h => Int.ne_of_lt h

end Graph

namespace Dump

/-- What is known when the blocks of a function with the given name are loaded. -/
def functionContext (file name : Value) : Context := ⟨file, .string name.display, none⟩

/-- The blocks that the elements of a list convert to, each on its own. -/
def Converts (c : Context) (xs : List Value) (bs : List Block) : Prop :=
  List.Forall₂ (fun x b => block c x = .ok b) xs bs

variable {c : Context} {v : Value}

theorem nextBlock_eq_ok {g g' : Graph} :
    nextBlock c g v = .ok g' ↔
      ∃ b, block c v = .ok b ∧ (∀ a ∈ g.blocks, a.id ≠ b.id) ∧ g'.blocks = b.insert g.blocks := by
  simp only [nextBlock, bind_eq_ok, mapError_eq_ok]
  refine exists_congr fun b => and_congr_right fun _ => ?_
  unfold addBlock Graph.add?
  split_ifs with fresh
  · constructor
    · intro h
      obtain rfl := Except.ok.inj h
      exact ⟨fresh, rfl⟩
    · rintro ⟨-, h⟩
      exact congrArg Except.ok (Graph.eq_of_blocks h.symm)
  · exact iff_of_false Context.fail_ne_ok fun h => fresh h.1

theorem perm_of_foldlM_nextBlock {xs : List Value} {g g' : Graph} (h : xs.foldlM (nextBlock c) g = .ok g') :
    ∃ bs, xs.mapM (block c) = .ok bs ∧ g'.blocks.Perm (bs ++ g.blocks) := by
  induction xs generalizing g with
  | nil =>
    obtain rfl := pure_eq_ok.1 h
    exact ⟨[], rfl, .refl _⟩
  | cons x xs ih =>
    obtain ⟨next, hnext, h⟩ := bind_eq_ok.1 h
    obtain ⟨b, hb, -, hblocks⟩ := nextBlock_eq_ok.1 hnext
    obtain ⟨bs, hbs, hperm⟩ := ih h
    refine ⟨b :: bs, mapM_eq_ok.2 (.cons hb (mapM_eq_ok.1 hbs)), ?_⟩
    rw [hblocks] at hperm
    exact hperm.trans (((b.insert_perm g.blocks).append_left bs).trans List.perm_middle)

/-- Elements are added to a graph if each of them loads and their ids are new and distinct. -/
theorem exists_foldlM_nextBlock {xs : List Value} {g : Graph} :
    (∃ g', xs.foldlM (nextBlock c) g = .ok g') ↔
      ∃ bs, xs.mapM (block c) = .ok bs ∧ (bs.map Block.id).Nodup ∧ ∀ b ∈ bs, ∀ a ∈ g.blocks, a.id ≠ b.id := by
  induction xs generalizing g with
  | nil => simp
  | cons x xs ih =>
    constructor
    · rintro ⟨g', h⟩
      obtain ⟨next, hnext, h⟩ := bind_eq_ok.1 h
      obtain ⟨b, hb, hfresh, hblocks⟩ := nextBlock_eq_ok.1 hnext
      obtain ⟨bs, hbs, hnodup, hnew⟩ := ih.1 ⟨g', h⟩
      have hmem (a : Block) : a ∈ next.blocks ↔ a = b ∨ a ∈ g.blocks := by rw [hblocks, Block.mem_insert]
      refine ⟨b :: bs, mapM_eq_ok.2 (.cons hb (mapM_eq_ok.1 hbs)), ?_, ?_⟩
      · rw [List.map_cons, List.nodup_cons]
        refine ⟨fun hid => ?_, hnodup⟩
        obtain ⟨a, ha, he⟩ := List.mem_map.1 hid
        exact hnew a ha b ((hmem b).2 (.inl rfl)) he.symm
      · rw [List.forall_mem_cons]
        exact ⟨hfresh, fun a ha d hd => hnew a ha d ((hmem d).2 (.inr hd))⟩
    · rintro ⟨bs, hbs, hnodup, hnew⟩
      cases mapM_eq_ok.1 hbs with
      | @cons _ b _ bs hb hrest =>
        rw [List.map_cons, List.nodup_cons] at hnodup
        rw [List.forall_mem_cons] at hnew
        have hinsert : ∀ a ∈ bs, ∀ d ∈ b.insert g.blocks, d.id ≠ a.id := by
          intro a ha d hd
          rcases Block.mem_insert.1 hd with rfl | hd
          · exact fun he => hnodup.1 (List.mem_map.2 ⟨a, ha, he.symm⟩)
          · exact hnew.2 a ha d hd
        obtain ⟨g', h⟩ := (ih (g := ⟨b.insert g.blocks, Block.pairwise_insert hnew.1 g.ordered⟩)).2
          ⟨bs, mapM_eq_ok.2 hrest, hnodup.2, hinsert⟩
        exact ⟨g', bind_eq_ok.2 ⟨_, nextBlock_eq_ok.2 ⟨b, hb, hnew.1, rfl⟩, h⟩⟩

theorem Converts.unique {xs : List Value} {bs bs' : List Block} (h : Converts c xs bs) (h' : Converts c xs bs') :
    bs = bs' :=
  Except.ok.inj ((mapM_eq_ok.2 h).symm.trans (mapM_eq_ok.2 h'))

theorem validate_eq_ok {g : Graph} : validate c g = .ok () ↔ Block.Closed g.blocks := by
  rw [← g.dangling?_eq_none_iff, validate]
  cases g.dangling? with
  | none => simp
  | some edge => simp

theorem closed_of_graph {g : Graph} (h : graph c v = .ok g) :
    ∃ xs bs, v.parts? = some xs ∧ Converts c xs bs ∧ g.blocks.Perm bs ∧ Block.Closed bs := by
  simp only [graph, bind_eq_ok, pure_eq_ok, mapError_eq_ok, convert_eq_ok, Value.parts_eq_ok] at h
  obtain ⟨xs, hxs, g, hg, _, hvalid, rfl⟩ := h
  obtain ⟨bs, hbs, hperm⟩ := perm_of_foldlM_nextBlock hg
  rw [List.append_nil] at hperm
  exact ⟨xs, bs, hxs, mapM_eq_ok.1 hbs, hperm, (validate_eq_ok.1 hvalid).of_perm hperm⟩

theorem exists_graph_ok {xs : List Value} {bs : List Block} (hxs : v.parts? = some xs)
    (hbs : Converts c xs bs) (hnodup : (bs.map Block.id).Nodup) (hclosed : Block.Closed bs) :
    ∃ g, graph c v = .ok g := by
  obtain ⟨g, hg⟩ := (exists_foldlM_nextBlock (g := {})).2 ⟨bs, mapM_eq_ok.2 hbs, hnodup, by simp⟩
  obtain ⟨bs', hbs', hperm⟩ := perm_of_foldlM_nextBlock hg
  obtain rfl : bs = bs' := hbs.unique (mapM_eq_ok.1 hbs')
  rw [List.append_nil] at hperm
  have hvalid : validate c g = .ok () := validate_eq_ok.2 (hclosed.of_perm hperm.symm)
  refine ⟨g, ?_⟩
  simp only [graph, bind_eq_ok, pure_eq_ok, mapError_eq_ok, convert_eq_ok, Value.parts_eq_ok]
  exact ⟨xs, hxs, g, hg, (), hvalid, rfl⟩

/-- What a list of blocks is loaded to: the blocks that its elements convert to, put in order. -/
theorem graph_eq_ok {g : Graph} :
    graph c v = .ok g ↔
      ∃ xs bs, v.parts? = some xs ∧ Converts c xs bs ∧ g.blocks.Perm bs ∧ Block.Closed bs := by
  refine ⟨closed_of_graph, ?_⟩
  rintro ⟨xs, bs, hxs, hbs, hperm, hclosed⟩
  have hnodup : (bs.map Block.id).Nodup := (hperm.map Block.id).nodup_iff.1 g.nodup_ids
  obtain ⟨g', hg'⟩ := exists_graph_ok hxs hbs hnodup hclosed
  obtain ⟨xs', bs', hxs', hbs', hperm', -⟩ := closed_of_graph hg'
  -- Both graphs hold the blocks of one list, so they are the same graph.
  obtain rfl : xs = xs' := Option.some.inj (hxs.symm.trans hxs')
  obtain rfl : bs = bs' := hbs.unique hbs'
  rw [Graph.eq_of_perm (hperm.trans hperm'.symm)]
  exact hg'

theorem functionSpan_eq_ok {s : Span} :
    functionSpan c v = .ok s ↔
      (v.given? "span" = none ∧ s = .empty) ∨ ∃ x, v.given? "span" = some x ∧ span c x = .ok s := by
  unfold functionSpan
  cases v.given? "span" with
  | none => simp [eq_comm]
  | some x => simp

theorem function_eq_ok {file : Value} {body : Body} :
    function file v = .ok body ↔
      ∃ name blocks, v.get? "name" = some name ∧ v.get? "blocks" = some blocks ∧ body.name = name.display ∧
        functionSpan (functionContext file name) v = .ok body.span ∧
        graph (functionContext file name) blocks = .ok body.toGraph := by
  unfold function
  cases v.get? "name" with
  | none => simp
  | some name =>
    simp only [bind_eq_ok, Context.require_eq_ok, pure_eq_ok, Option.some.injEq, exists_and_left, exists_eq_left']
    constructor
    · rintro ⟨s, hs, blocks, hblocks, g, hg, rfl⟩
      exact ⟨blocks, hblocks, rfl, hs, hg⟩
    · rintro ⟨blocks, hblocks, hname, hs, hg⟩
      refine ⟨body.span, hs, blocks, hblocks, body.toGraph, hg, ?_⟩
      rw [← hname]

theorem program_eq_ok {p : Program} :
    program v = .ok p ↔ v.shape = .object ∧ ((v.get? "file").map Value.display).getD {} = p.file ∧
      ∃ xs, (v.get? "functions").getD (.array []) = .array xs ∧
        xs.mapM (function (.string p.file)) = .ok p.functions := by
  unfold program
  split
  · next fields =>
    split
    · next xs hxs =>
      simp only [bind_eq_ok, pure_eq_ok, hxs, Value.array.injEq, exists_eq_left', Value.shape, true_and]
      constructor
      · rintro ⟨functions, hf, rfl⟩
        exact ⟨rfl, hf⟩
      · rintro ⟨hfile, hf⟩
        exact ⟨p.functions, hfile ▸ hf, by rw [hfile]⟩
    · next other hother =>
      refine iff_of_false (by simp) ?_
      rintro ⟨-, -, xs, hxs, -⟩
      exact hother xs hxs
  · next hv =>
    refine iff_of_false (by simp) ?_
    rintro ⟨hshape, -⟩
    cases v with
    | object fields => exact hv fields rfl
    | _ => cases hshape

end Dump

end ContractLint
