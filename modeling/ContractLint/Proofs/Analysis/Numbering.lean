import ContractLint.Proofs.Analysis.References
import ContractLint.Proofs.Reentrancy.Simulation

/-! Block ids and edges. The analysis uses the ids of blocks for their order alone and never follows an edge: numbering
the blocks anew in the same order and sending the terminators anywhere else changes nothing in the results. -/

namespace ContractLint

/-! ### Other edges -/

/-- The second terminator is the first with any other targets. -/
inductive TerminatorKind.Retargeted : TerminatorKind → TerminatorKind → Prop
  | goto (target target' : Int) : Retargeted (.goto target) (.goto target')
  | switchInt (discriminant : Operand) (targets targets' : List (Int × Int)) (otherwise otherwise' : Option Int) :
      Retargeted (.switchInt discriminant targets otherwise) (.switchInt discriminant targets' otherwise')
  | call (callee : Text) (args : List Operand) (destination : Option Place) (target target' : Option Int) :
      Retargeted (.call callee args destination target) (.call callee args destination target')
  | assert (guard : Guard) (condition : Option Operand) (expected : Bool) (target target' : Option Int) :
      Retargeted (.assert guard condition expected target) (.assert guard condition expected target')
  | ret : Retargeted .ret .ret
  | unreachable : Retargeted .unreachable .unreachable

inductive Item.Retargeted : Item → Item → Prop
  | statement (s : Statement) : Retargeted (.statement s) (.statement s)
  | terminator {kind kind' : TerminatorKind} (h : kind.Retargeted kind') (span : Span) :
      Retargeted (.terminator ⟨kind, span⟩) (.terminator ⟨kind', span⟩)

/-- The second block is the first with a terminator that may have other targets. -/
structure Block.Retargeted (b b' : Block) : Prop where
  id : b'.id = b.id
  statements : b'.statements = b.statements
  terminator : Option.Rel (fun t t' => t.kind.Retargeted t'.kind ∧ t.span = t'.span) b.terminator b'.terminator

/-- The second function is the first with any other edges. -/
structure Body.Retargeted (body body' : Body) : Prop where
  name : body'.name = body.name
  span : body'.span = body.span
  blocks : List.Forall₂ Block.Retargeted body.blocks body'.blocks

namespace Item.Retargeted

variable {i j : Item}

theorem span (h : i.Retargeted j) : i.span = j.span := by
  cases h <;> rfl

theorem callee? (h : i.Retargeted j) : i.callee? = j.callee? := by
  cases h with
  | statement s => rfl
  | terminator h span => cases h <;> rfl

theorem result? (h : i.Retargeted j) : i.result? = j.result? := by
  cases h with
  | statement s => rfl
  | terminator h span => cases h <;> rfl

theorem operands (h : i.Retargeted j) : i.operands = j.operands := by
  cases h with
  | statement s => rfl
  | terminator h span => cases h <;> rfl

theorem writesBalance (h : i.Retargeted j) (tables : Tables) (tracked : Option Place) :
    Reentrancy.writesBalance tables tracked i = Reentrancy.writesBalance tables tracked j := by
  cases h with
  | statement s => rfl
  | terminator h span =>
    cases h with
    | assert guard condition expected target target' =>
      cases guard with
      | overflow op left right => cases op <;> cases left <;> rfl
      | boundsCheck length index => rfl
      | divisionByZero operand => rfl
    | _ => rfl

theorem use? (h : i.Retargeted j) : i.use? = j.use? := by
  rw [Item.use?, Item.use?, Item.paths, Item.paths, h.span, h.callee?, h.operands]

theorem read? (h : i.Retargeted j) (tables : Tables) : i.read? tables = j.read? tables := by
  rw [Item.read?, Item.read?, h.span, h.callee?, h.result?]

theorem toMatches (h : i.Retargeted j) (tables : Tables) : i.Matches tables tables Eq j :=
  .of_eq h.span (by rw [h.callee?]) (h.read? tables) fun p => h.writesBalance tables (some p)

end Item.Retargeted

theorem Block.Retargeted.items {b b' : Block} (h : b.Retargeted b') :
    List.Forall₂ Item.Retargeted b.items b'.items := by
  rw [Block.items, Block.items, h.statements]
  refine List.rel_append ?_ ?_
  · rw [List.forall₂_map_left_iff, List.forall₂_map_right_iff, List.forall₂_same]
    exact fun s _ => .statement s
  · have hterminator := h.terminator
    generalize b.terminator = t, b'.terminator = t' at hterminator ⊢
    cases hterminator with
    | none => exact .nil
    | @some t t' ht =>
      obtain ⟨kind, span⟩ := t
      obtain ⟨kind', _⟩ := t'
      obtain ⟨hkind, rfl⟩ := ht
      exact .cons (.terminator hkind span) .nil

/-! ### Other ids -/

/-- The function with its blocks renumbered in the same order. -/
def Body.renumber (body : Body) (f : Int → Int) (increasing : body.Increasing f) : Body where
  name := body.name
  span := body.span
  blocks := body.blocks.map fun b => { b with id := f b.id }
  ordered := by
    rw [List.pairwise_map]
    refine body.ordered.imp_of_mem fun ha hb hab => ?_
    exact increasing _ (List.mem_map_of_mem ha) _ (List.mem_map_of_mem hb) hab

namespace Body

variable {body body' : Body} {f : Int → Int} {increasing : body.Increasing f}

theorem forall₂_visited (h : (body.renumber f increasing).Retargeted body') :
    List.Forall₂ (fun x y => y.1 = f x.1 ∧ x.2.Retargeted y.2) body.visited body'.visited := by
  have hblocks := List.forall₂_map_left_iff.1 h.blocks
  exact forall₂_visited_of_blocks (hblocks.imp fun _ _ hb => ⟨hb.id, hb.items⟩)

/-- The second function is the first with its blocks numbered anew in the same order, and with any other edges. -/
def Renumbered (body body' : Body) : Prop :=
  ∃ (f : Int → Int) (increasing : body.Increasing f), (body.renumber f increasing).Retargeted body'

theorem Renumbered.uses (h : body.Renumbered body') : body.uses = body'.uses := by
  obtain ⟨f, increasing, h⟩ := h
  rw [uses_eq_filterMap, uses_eq_filterMap]
  exact filterMap_of_forall₂ (forall₂_visited h) fun x y hxy => hxy.2.use?

theorem Renumbered.finding (h : body.Renumbered body') (tables : Tables) :
    (Reentrancy.observeAll tables {} body.observations).finding tables =
      (Reentrancy.observeAll tables {} body'.observations).finding tables := by
  obtain ⟨f, increasing, h⟩ := h
  have hvisits : VisitsMatch tables tables Eq f body body' :=
    (forall₂_visited h).imp fun x y hxy => ⟨hxy.1, hxy.2.toMatches tables⟩
  exact hvisits.finding increasing

theorem Renumbered.name (h : body.Renumbered body') : body.name = body'.name := by
  obtain ⟨f, increasing, h⟩ := h
  exact h.name.symm

end Body

namespace Checker

theorem visit_of_renumbered (c : Checker) {body body' : Body} (h : body.Renumbered body') :
    c.visit body = c.visit body' :=
  c.visit_congr h.name (h.finding c.tables) h.uses

/-- A function whose blocks are numbered anew in the same order, and whose terminators lead anywhere else, gets the same
report from every checker; and functions changed in this way, each in its own, get the same results of a run. -/
theorem run_renumbered (c : Checker) :
    (∀ body body' : Body, body.Renumbered body' → c.visit body' = c.visit body) ∧
    ∀ functions functions' : List Body, List.Forall₂ Body.Renumbered functions functions' →
      c.run functions' = c.run functions := by
  refine ⟨fun body body' h => (c.visit_of_renumbered h).symm, fun functions functions' h => ?_⟩
  have hvisits : functions.mapM c.visit = functions'.mapM c.visit :=
    Outcome.mapM_congr_of_forall₂ (h.imp fun _ _ hbody => c.visit_of_renumbered hbody)
  rw [run_eq, run_eq, hvisits]

/-- The withdrawal with its blocks numbered anew and with edges that lead nowhere. -/
def withdrawalAnew : Body where
  name := "withdraw"
  blocks :=
    [{ id := -3
       terminator := some ⟨.call "Map::<K>::get" [] (some ⟨1, []⟩) none,
         { lo := 10, hi := 20, line := 2 }⟩ },
     { id := 2
       terminator := some ⟨.call "pay" [.constant (.int 7) (.ofString "MAX")] none (some (-40)), {}⟩ },
     { id := 17
       statements := [⟨.assign ⟨1, [.deref]⟩ (.use .unit), { lo := 40, hi := 50, line := 5 }⟩] }]
  ordered := by decide

theorem run_renumbered_withdrawal :
    withdrawal.Renumbered withdrawalAnew ∧
    ofWithdrawal.visit withdrawalAnew = ofWithdrawal.visit withdrawal ∧
    ofWithdrawal.run [withdrawalAnew, draw] = ofWithdrawal.run [withdrawal, draw] ∧
    (ofWithdrawal.visit withdrawalAnew).map (·.triggered .reentrancy) = .ok true := by
  have hwithdrawal : withdrawal.Renumbered withdrawalAnew := by
    refine ⟨fun n => 5 * n + 2, fun a _ b _ hab => ?_, rfl, rfl, ?_⟩
    · simp only
      omega
    · exact .cons ⟨rfl, rfl, .some ⟨.call .., rfl⟩⟩ (.cons ⟨rfl, rfl, .some ⟨.call .., rfl⟩⟩
        (.cons ⟨rfl, rfl, .none⟩ .nil))
  have hdraw : draw.Renumbered draw := by
    refine ⟨id, draw.increasing_id, rfl, rfl, ?_⟩
    exact .cons ⟨rfl, rfl, .some ⟨.assert .., rfl⟩⟩ (.cons ⟨rfl, rfl, .some ⟨.call .., rfl⟩⟩ .nil)
  obtain ⟨hvisit, hrun⟩ := run_renumbered ofWithdrawal
  refine ⟨hwithdrawal, hvisit _ _ hwithdrawal, hrun _ _ (.cons hwithdrawal (.cons hdraw .nil)), ?_⟩
  rw [hvisit _ _ hwithdrawal]
  decide +kernel

end Checker

end ContractLint
