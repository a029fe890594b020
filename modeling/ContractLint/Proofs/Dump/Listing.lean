import Mathlib.Data.List.Perm.Basic
import ContractLint.Proofs.Dump.Faithful
import ContractLint.Proofs.Reentrancy.Visit

/-! The order in which a dump lists the blocks of a function. Blocks are loaded and entered one after another, but what is
kept of them is their order by id, so a function listed in another order loads to the same function. -/

namespace ContractLint.Dump

open Outcome

/-- The entry of a function with another list of blocks. -/
def relist (v : Value) (blocks : List Value) : Value :=
  match v with
  | .object fields => .object (Assoc.put fields "blocks" (.array blocks))
  | v => v

section

variable {v : Value} {ys : List Value}

theorem get?_blocks_relist {x : Value} (h : v.get? "blocks" = some x) :
    (relist v ys).get? "blocks" = some (.array ys) := by
  cases v with
  | object fields => exact Assoc.get?_put_self fields _ _
  | _ => simp [Value.get?] at h

theorem get?_relist_of_ne {key : String} (h : key ≠ "blocks") : (relist v ys).get? key = v.get? key := by
  cases v with
  | object fields =>
    have hkey : ("blocks" : Text) ≠ (key : Text) := fun he => h (Text.ofString_injective he).symm
    exact Assoc.get?_put_of_ne fields _ hkey
  | _ => rfl

theorem functionSpan_relist (c : Context) : functionSpan c (relist v ys) = functionSpan c v := by
  have hspan : (relist v ys).get? "span" = v.get? "span" := get?_relist_of_ne (by decide)
  rw [functionSpan, functionSpan, Value.given?, Value.given?, hspan]

end

/-- Each block is converted on its own, so that blocks in another order convert to the same ones. -/
theorem Converts.perm {c : Context} {xs ys : List Value} {bs : List Block} (h : Converts c xs bs) (hperm : ys.Perm xs) :
    ∃ bs', Converts c ys bs' ∧ bs'.Perm bs :=
  List.perm_comp_forall₂ hperm h

/-- A graph is loaded from a list of blocks in any order. -/
theorem graph_of_perm {c : Context} {xs ys : List Value} {g : Graph} (h : graph c (.array xs) = .ok g)
    (hperm : ys.Perm xs) : graph c (.array ys) = .ok g := by
  obtain ⟨_, bs, hxs, hbs, hblocks, hclosed⟩ := graph_eq_ok.1 h
  obtain rfl := Option.some.inj hxs
  obtain ⟨bs', hbs', hbs_perm⟩ := hbs.perm hperm
  have hclosed' : Block.Closed bs' := hclosed.of_perm hbs_perm.symm
  exact graph_eq_ok.2 ⟨ys, bs', rfl, hbs', hblocks.trans hbs_perm.symm, hclosed'⟩

/-- If a function loads then it loads with its blocks listed in any other order. Its blocks then have the same ids, come
in the same order and lead to each other in the same way, and every checker reports the same of it. -/
theorem function_relist {file v : Value} {xs ys : List Value} {body : Body}
    (hblocks : v.get? "blocks" = some (.array xs)) (hbody : function file v = .ok body) (hperm : ys.Perm xs) :
    ∃ body', function file (relist v ys) = .ok body' ∧ body'.ids = body.ids ∧ body'.blocks = body.blocks ∧
      (∀ id, body'.successors id = body.successors id ∧ body'.predecessors id = body.predecessors id) ∧
      ∀ c : Checker, c.visit body' = c.visit body := by
  obtain ⟨name, _, hname, hblocks', hbodyName, hspan, hgraph⟩ := function_eq_ok.1 hbody
  obtain rfl := Option.some.inj (hblocks.symm.trans hblocks')
  have hname' : (relist v ys).get? "name" = some name := by
    rw [get?_relist_of_ne (by decide), hname]
  have hspan' : functionSpan (functionContext file name) (relist v ys) = .ok body.span := by
    rw [functionSpan_relist, hspan]
  have hgraph' : graph (functionContext file name) (.array ys) = .ok body.toGraph := graph_of_perm hgraph hperm
  have hload : function file (relist v ys) = .ok body :=
    function_eq_ok.2 ⟨name, _, hname', get?_blocks_relist hblocks, hbodyName, hspan', hgraph'⟩
  exact ⟨body, hload, rfl, rfl, fun _ => ⟨rfl, rfl⟩, fun _ => rfl⟩

/-- The blocks of the withdrawal, listed from the last to the first, are visited from the first to the last. -/
theorem function_relist_withdrawal :
    let blocks := Checker.withdrawal.blocks.map Block.toValue
    Checker.withdrawal.toValue.get? "blocks" = some (.array blocks) ∧
    function .null Checker.withdrawal.toValue = .ok Checker.withdrawal ∧ blocks.reverse.Perm blocks ∧
    ∃ body, function .null (relist Checker.withdrawal.toValue blocks.reverse) = .ok body ∧ body.ids = [-1, 0, 3] ∧
      body.predecessors 3 = [0] ∧
      (Checker.ofWithdrawal.visit body).map (·.triggered .reentrancy) = .ok true := by
  intro blocks
  have hblocks : Checker.withdrawal.toValue.get? "blocks" = some (.array blocks) := rfl
  have hclosed : Block.Closed Checker.withdrawal.blocks := by
    rw [← Graph.dangling?_eq_none_iff]
    decide
  have hload : function .null Checker.withdrawal.toValue = .ok Checker.withdrawal :=
    function_of_isFunction (isFunction_toValue .null Checker.withdrawal) hclosed
  have hperm : blocks.reverse.Perm blocks := List.reverse_perm blocks
  obtain ⟨body, hbody, hids, -, hedges, hvisit⟩ := function_relist hblocks hload hperm
  refine ⟨hblocks, hload, hperm, body, hbody, hids, ?_, ?_⟩
  · rw [(hedges 3).2]
    decide
  · rw [hvisit]
    decide +kernel

end ContractLint.Dump
