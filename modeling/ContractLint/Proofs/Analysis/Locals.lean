import Mathlib.Logic.Function.Basic
import ContractLint.Proofs.Analysis.References
import ContractLint.Proofs.Reentrancy.Simulation

/-! Variables and the places in them. The analysis asks of two places whether they are in the same variable and nothing
else: giving the variables other names, and pointing each place anywhere else in its variable, changes nothing in a
report. -/

namespace ContractLint

/-! ### Other places -/

/-- The second place is in the variable that `f` gives for the first one's, anywhere in it. -/
def Place.Renamed (f : Int → Int) (p q : Place) : Prop := q.base = f p.base

/-- The second operand reads a renamed place, or the same constant. -/
inductive Operand.Renamed (f : Int → Int) : Operand → Operand → Prop
  | copy {p q : Place} (h : p.Renamed f q) : Renamed f (.copy p) (.copy q)
  | move {p q : Place} (h : p.Renamed f q) : Renamed f (.move p) (.move q)
  | constant (value path : Value) : Renamed f (.constant value path) (.constant value path)

inductive Rvalue.Renamed (f : Int → Int) : Rvalue → Rvalue → Prop
  | use {o o' : Operand} (h : o.Renamed f o') : Renamed f (.use o) (.use o')
  | binary (op : BinOp) {left left' right right' : Operand} (hleft : left.Renamed f left')
      (hright : right.Renamed f right') (checked : Bool) :
      Renamed f (.binary op left right checked) (.binary op left' right' checked)
  | ref {p q : Place} (h : p.Renamed f q) (mutable : Bool) : Renamed f (.ref p mutable) (.ref q mutable)
  | call (callee : Text) {args args' : List Operand} (h : List.Forall₂ (Operand.Renamed f) args args') :
      Renamed f (.call callee args) (.call callee args')

/-- The slots of storage markers are no places, and may be any. -/
inductive StatementKind.Renamed (f : Int → Int) : StatementKind → StatementKind → Prop
  | assign {p q : Place} (hplace : p.Renamed f q) {source source' : Rvalue} (hsource : source.Renamed f source') :
      Renamed f (.assign p source) (.assign q source')
  | storageLive (slot slot' : Int) : Renamed f (.storageLive slot) (.storageLive slot')
  | storageDead (slot slot' : Int) : Renamed f (.storageDead slot) (.storageDead slot')
  | nop : Renamed f .nop .nop

inductive Guard.Renamed (f : Int → Int) : Guard → Guard → Prop
  | overflow (op : BinOp) {left left' right right' : Operand} (hleft : left.Renamed f left')
      (hright : right.Renamed f right') : Renamed f (.overflow op left right) (.overflow op left' right')
  | boundsCheck {length length' index index' : Operand} (hlength : length.Renamed f length')
      (hindex : index.Renamed f index') : Renamed f (.boundsCheck length index) (.boundsCheck length' index')
  | divisionByZero {o o' : Operand} (h : o.Renamed f o') : Renamed f (.divisionByZero o) (.divisionByZero o')

inductive TerminatorKind.Renamed (f : Int → Int) : TerminatorKind → TerminatorKind → Prop
  | goto (target : Int) : Renamed f (.goto target) (.goto target)
  | switchInt {o o' : Operand} (h : o.Renamed f o') (targets : List (Int × Int)) (otherwise : Option Int) :
      Renamed f (.switchInt o targets otherwise) (.switchInt o' targets otherwise)
  | call (callee : Text) {args args' : List Operand} (hargs : List.Forall₂ (Operand.Renamed f) args args')
      {destination destination' : Option Place} (hdestination : Option.Rel (Place.Renamed f) destination destination')
      (target : Option Int) : Renamed f (.call callee args destination target) (.call callee args' destination' target)
  | assert {guard guard' : Guard} (hguard : guard.Renamed f guard') {condition condition' : Option Operand}
      (hcondition : Option.Rel (Operand.Renamed f) condition condition') (expected : Bool) (target : Option Int) :
      Renamed f (.assert guard condition expected target) (.assert guard' condition' expected target)
  | ret : Renamed f .ret .ret
  | unreachable : Renamed f .unreachable .unreachable

/-- The second instruction is the first with every place in it renamed. -/
inductive Item.Renamed (f : Int → Int) : Item → Item → Prop
  | statement {kind kind' : StatementKind} (h : kind.Renamed f kind') (span : Span) :
      Renamed f (.statement ⟨kind, span⟩) (.statement ⟨kind', span⟩)
  | terminator {kind kind' : TerminatorKind} (h : kind.Renamed f kind') (span : Span) :
      Renamed f (.terminator ⟨kind, span⟩) (.terminator ⟨kind', span⟩)

structure Block.Renamed (f : Int → Int) (b b' : Block) : Prop where
  id : b'.id = b.id
  items : List.Forall₂ (Item.Renamed f) b.items b'.items

/-- The second function is the first with its variables renamed, and with each place anywhere in its variable. -/
structure Body.Renamed (f : Int → Int) (body body' : Body) : Prop where
  name : body'.name = body.name
  span : body'.span = body.span
  blocks : List.Forall₂ (Block.Renamed f) body.blocks body'.blocks

/-! ### What is kept -/

variable {f : Int → Int}

/-- An injective renaming keeps two places in one variable, and two places in two. -/
theorem Place.Renamed.sameLocation (hf : Function.Injective f) {p q p' q' : Place} (hp : p.Renamed f p')
    (hq : q.Renamed f q') : sameLocation (some p) (some q) = sameLocation (some p') (some q') := by
  have hbase : p.base = q.base ↔ p'.base = q'.base := by
    rw [hp, hq]
    exact hf.eq_iff.symm
  rw [Bool.eq_iff_iff]
  simp only [Place.sameLocation, beq_iff_eq, hbase]

theorem Operand.Renamed.path? {o o' : Operand} (h : o.Renamed f o') : o.path? = o'.path? := by
  cases h <;> rfl

theorem Rvalue.Renamed.operands {source source' : Rvalue} (h : source.Renamed f source') :
    List.Forall₂ (Operand.Renamed f) source.operands source'.operands := by
  cases h with
  | use h => exact .cons h .nil
  | binary op hleft hright checked => exact .cons hleft (.cons hright .nil)
  | ref h mutable => exact .nil
  | call callee h => exact h

theorem Guard.Renamed.operands {guard guard' : Guard} (h : guard.Renamed f guard') :
    List.Forall₂ (Operand.Renamed f) guard.operands guard'.operands := by
  cases h with
  | overflow op hleft hright => exact .cons hleft (.cons hright .nil)
  | boundsCheck hlength hindex => exact .cons hlength (.cons hindex .nil)
  | divisionByZero h => exact .cons h .nil

namespace Item.Renamed

variable {i j : Item}

theorem span (h : i.Renamed f j) : i.span = j.span := by
  cases h <;> rfl

theorem callee? (h : i.Renamed f j) : i.callee? = j.callee? := by
  cases h with
  | statement h span =>
    cases h with
    | assign hplace hsource => cases hsource <;> rfl
    | _ => rfl
  | terminator h span => cases h <;> rfl

theorem result? (h : i.Renamed f j) : Option.Rel (Place.Renamed f) i.result? j.result? := by
  cases h with
  | statement h span =>
    cases h with
    | assign hplace hsource =>
      cases hsource with
      | call callee hargs => exact .some hplace
      | _ => exact .none
    | _ => exact .none
  | terminator h span =>
    cases h with
    | call callee hargs hdestination target => exact hdestination
    | _ => exact .none

theorem operands (h : i.Renamed f j) : List.Forall₂ (Operand.Renamed f) i.operands j.operands := by
  cases h with
  | statement h span =>
    cases h with
    | assign hplace hsource => exact hsource.operands
    | _ => exact .nil
  | terminator h span =>
    cases h with
    | switchInt h targets otherwise => exact .cons h .nil
    | call callee hargs hdestination target => exact hargs
    | assert hguard hcondition expected target =>
      refine List.rel_append ?_ hguard.operands
      cases hcondition with
      | none => exact .nil
      | some h => exact .cons h .nil
    | _ => exact .nil

/-- No place stands in a path. -/
theorem use? (h : i.Renamed f j) : i.use? = j.use? := by
  have hpaths : i.operands.filterMap Operand.path? = j.operands.filterMap Operand.path? :=
    filterMap_of_forall₂ h.operands fun _ _ ho => ho.path?
  rw [Item.use?, Item.use?, Item.paths, Item.paths, h.span, h.callee?, hpaths]

theorem read? (h : i.Renamed f j) (tables : Tables) :
    Option.Rel (fun a b => a.1.Renamed f b.1 ∧ a.2 = b.2) (i.read? tables) (j.read? tables) := by
  have hresult := h.result?
  unfold Item.read?
  rw [h.callee?, h.span]
  generalize i.result? = place, j.result? = place' at hresult ⊢
  cases j.callee? with
  | none => exact .none
  | some callee =>
    cases hresult with
    | none => exact .none
    | some hplace =>
      by_cases hcovers : (tables.table .balanceRead).covers callee = true
      · simp only [hcovers, if_true]
        exact .some ⟨hplace, rfl⟩
      · simp only [hcovers]
        exact .none

theorem writesBalance (hf : Function.Injective f) (h : i.Renamed f j) (tables : Tables) {p q : Place}
    (hpq : p.Renamed f q) :
    Reentrancy.writesBalance tables (some p) i = Reentrancy.writesBalance tables (some q) j := by
  cases h with
  | statement h span =>
    cases h with
    | assign hplace hsource =>
      simp only [Reentrancy.writesBalance, hplace.sameLocation hf hpq]
      cases hsource <;> rfl
    | _ => rfl
  | terminator h span =>
    cases h with
    | assert hguard hcondition expected target =>
      cases hguard with
      | overflow op hleft hright =>
        cases hleft with
        | copy hplace =>
          cases op with
          | sub => exact hplace.sameLocation hf hpq
          | _ => rfl
        | _ => cases op <;> rfl
      | _ => rfl
    | _ => rfl

theorem toMatches (hf : Function.Injective f) (h : i.Renamed f j) (tables : Tables) :
    i.Matches tables tables (Place.Renamed f) j where
  span := h.span
  transfer := by rw [h.callee?]
  read := h.read? tables
  write := fun _ _ hpq => h.writesBalance hf tables hpq

end Item.Renamed

namespace Body.Renamed

variable {body body' : Body}

theorem forall₂_visited (h : body.Renamed f body') :
    List.Forall₂ (fun x y => y.1 = id x.1 ∧ x.2.Renamed f y.2) body.visited body'.visited :=
  forall₂_visited_of_blocks (h.blocks.imp fun _ _ hb => ⟨hb.id, hb.items⟩)

theorem uses (h : body.Renamed f body') : body.uses = body'.uses := by
  rw [uses_eq_filterMap, uses_eq_filterMap]
  exact filterMap_of_forall₂ h.forall₂_visited fun x y hxy => hxy.2.use?

theorem finding (hf : Function.Injective f) (h : body.Renamed f body') (tables : Tables) :
    (Reentrancy.observeAll tables {} body.observations).finding tables =
      (Reentrancy.observeAll tables {} body'.observations).finding tables := by
  have hvisits : VisitsMatch tables tables (Place.Renamed f) id body body' :=
    h.forall₂_visited.imp fun x y hxy => ⟨hxy.1, hxy.2.toMatches hf tables⟩
  exact hvisits.finding body.increasing_id

end Body.Renamed

namespace Checker

/-- A function whose variables have other names, and whose places are anywhere else in their variables, gets the same
report from every checker. -/
theorem visit_renamed (c : Checker) (hf : Function.Injective f) {body body' : Body} (h : body.Renamed f body') :
    c.visit body' = c.visit body :=
  (c.visit_congr h.name.symm (h.finding hf c.tables) h.uses).symm

/-- The withdrawal with its balance in another variable, read into a field of it and written behind an element. -/
def withdrawalElsewhere : Body where
  name := "withdraw"
  blocks :=
    [{ id := -1
       terminator := some ⟨.call "Map::<K>::get" [] (some ⟨-2, [.field 0]⟩) (some 0),
         { lo := 10, hi := 20, line := 2 }⟩ },
     { id := 0
       terminator := some ⟨.call "pay" [.constant (.int 7) (.ofString "MAX")] none (some 3), {}⟩ },
     { id := 3
       statements := [⟨.assign ⟨-2, [.index 1, .deref]⟩ (.use .unit), { lo := 40, hi := 50, line := 5 }⟩] }]
  ordered := by decide

theorem visit_renamed_withdrawal :
    Function.Injective (fun n : Int => 1 - 3 * n) ∧
    withdrawal.Renamed (fun n => 1 - 3 * n) withdrawalElsewhere ∧
    ofWithdrawal.visit withdrawalElsewhere = ofWithdrawal.visit withdrawal ∧
    (ofWithdrawal.visit withdrawalElsewhere).map (·.triggered .reentrancy) = .ok true := by
  have hf : Function.Injective (fun n : Int => 1 - 3 * n) := by
    intro a b hab
    simp only at hab
    omega
  have hplace (steps steps' : List Projection) : Place.Renamed (fun n => 1 - 3 * n) ⟨1, steps⟩ ⟨-2, steps'⟩ := rfl
  have h : withdrawal.Renamed (fun n => 1 - 3 * n) withdrawalElsewhere := by
    refine ⟨rfl, rfl, .cons ⟨rfl, .cons ?_ .nil⟩ (.cons ⟨rfl, .cons ?_ .nil⟩ (.cons ⟨rfl, .cons ?_ .nil⟩ .nil))⟩
    · exact .terminator (.call _ .nil (.some (hplace _ _)) _) _
    · exact .terminator (.call _ (.cons (.constant _ _) .nil) .none _) _
    · exact .statement (.assign (hplace _ _) (.use (.constant _ _))) _
  have hvisit := visit_renamed ofWithdrawal hf h
  refine ⟨hf, h, hvisit, ?_⟩
  rw [hvisit]
  decide +kernel

end Checker

end ContractLint
