import ContractLint.Proofs.Analysis.Success
import ContractLint.Proofs.Reentrancy.History

/-! The reentrancy finding of a visit, said of the function alone: which balance is read first, where the last
transfer is, and what is written after it. Instructions are taken in the order of the visit, block by block in order
of the ids. -/

namespace ContractLint

/-- `x` is the first element of a list that has the property `p`. -/
def IsFirst {α : Type} (p : α → Prop) (xs : List α) (x : α) : Prop :=
  ∃ before rest, xs = before ++ x :: rest ∧ p x ∧ ∀ y ∈ before, ¬ p y

theorem exists_isFirst {α : Type} {p : α → Prop} {xs : List α} {x : α} (hx : x ∈ xs) (hp : p x) :
    ∃ y, IsFirst p xs y := by
  classical
  have hsome : (xs.find? (p ·)).isSome := List.find?_isSome.2 ⟨x, hx, decide_eq_true hp⟩
  obtain ⟨y, hy⟩ := Option.isSome_iff_exists.1 hsome
  obtain ⟨hpy, before, rest, hsplit, hbefore⟩ := List.find?_eq_some_iff_append.1 hy
  exact ⟨y, before, rest, hsplit, of_decide_eq_true hpy, fun z hz => by simpa using hbefore z hz⟩

/-! ### Instructions -/

namespace Item

/-- The place that the result of a call goes to. -/
def result? : Item → Option Place
  | .statement ⟨.assign destination (.call _ _), _⟩ => some destination
  | .terminator ⟨.call _ _ destination _, _⟩ => destination
  | _ => none

/-- The instruction calls a function of the table, as a statement or as a terminator. -/
def Calls (t : Table) (item : Item) : Prop := ∃ callee, item.callee? = some callee ∧ t.covers callee = true

/-- The instruction is a balance read that stores its result in `place`. -/
def Reads (tables : Tables) (place : Place) (item : Item) : Prop :=
  item.Calls (tables.table .balanceRead) ∧ item.result? = some place

/-- The instruction writes the variable `base`: it assigns something other than a balance read to a place in it, or
it guards a subtraction from a copy of such a place. -/
inductive Writes (tables : Tables) (base : Int) : Item → Prop
  | assign (destination : Place) (source : Rvalue) (span : Span) (same : destination.base = base)
      (noRead : ∀ callee args, source = .call callee args → (tables.table .balanceRead).covers callee = false) :
      Writes tables base (.statement ⟨.assign destination source, span⟩)
  | subtract (place : Place) (right : Operand) (condition : Option Operand) (expected : Bool) (target : Option Int)
      (span : Span) (same : place.base = base) :
      Writes tables base (.terminator ⟨.assert (.overflow .sub (.copy place) right) condition expected target, span⟩)

theorem writesBalance_iff {tables : Tables} {place : Place} {item : Item} :
    Reentrancy.writesBalance tables (some place) item = true ↔ item.Writes tables place.base := by
  constructor
  · intro h
    unfold Reentrancy.writesBalance at h
    split at h
    · next destination source span =>
      simp only [Place.sameLocation, Bool.and_eq_true, Bool.not_eq_true', beq_iff_eq] at h
      refine .assign destination source span h.2 fun callee args hs => ?_
      subst hs
      exact h.1
    · next p right condition expected target span =>
      simp only [Place.sameLocation, beq_iff_eq] at h
      exact .subtract p right condition expected target span h
    · simp at h
  · rintro (⟨destination, source, span, hb, hread⟩ | ⟨p, right, condition, expected, target, span, hb⟩)
    · cases source <;> simp [Reentrancy.writesBalance, Place.sameLocation, hb]
      next callee args => exact hread callee args rfl
    · simp [Reentrancy.writesBalance, Place.sameLocation, hb]

theorem call?_eq (block : Int) (item : Item) :
    item.call? block = item.callee?.map fun callee => .call block (.string callee) item.result? item.span := by
  unfold call?
  split
  · rfl
  · rfl
  · next h₁ h₂ =>
    have hnone : item.callee? = none := by
      unfold callee?
      split
      · next destination callee args span => exact absurd rfl (h₁ destination callee args span)
      · next callee args destination target span => exact absurd rfl (h₂ callee args destination target span)
      · rfl
    rw [hnone, Option.map_none]

/-- The place and the span of a balance read that stores its result. -/
def read? (tables : Tables) (item : Item) : Option (Place × Span) :=
  match item.callee?, item.result? with
  | some callee, some place => if (tables.table .balanceRead).covers callee then some (place, item.span) else none
  | _, _ => none

theorem read?_eq_some_iff {tables : Tables} {item : Item} {place : Place} {span : Span} :
    item.read? tables = some (place, span) ↔ item.Reads tables place ∧ item.span = span := by
  unfold read? Reads Calls
  cases item.callee? <;> cases item.result? <;> simp [and_assoc]

theorem read?_eq_none_iff {tables : Tables} {item : Item} :
    item.read? tables = none ↔ ¬ ∃ place, item.Reads tables place := by
  constructor
  · rintro h ⟨place, hr⟩
    rw [read?_eq_some_iff.2 ⟨hr, rfl⟩] at h
    simp at h
  · intro h
    rw [Option.eq_none_iff_forall_ne_some]
    rintro ⟨place, span⟩ he
    exact h ⟨place, (read?_eq_some_iff.1 he).1⟩

theorem filterMap_item?_observations (block : Int) (item : Item) :
    (item.observations block).filterMap Observation.item? = [(block, item)] := by
  rw [observations, call?_eq]
  cases item.callee? <;> simp [Observation.item?]

theorem filterMap_read?_observations (tables : Tables) (block : Int) (item : Item) :
    (item.observations block).filterMap (Observation.read? tables) = (item.read? tables).toList := by
  rw [observations, call?_eq, read?]
  cases item.callee? with
  | none => simp [Observation.read?]
  | some callee =>
    cases item.result? with
    | none => simp [Observation.read?]
    | some place =>
      by_cases h : (tables.table .balanceRead).covers callee = true <;>
        simp [Observation.read?, List.filterMap_cons, h]

theorem mem_keys_transfer?_observations {tables : Tables} {block id : Int} {item : Item} :
    id ∈ ((item.observations block).filterMap (Observation.transfer? tables)).map Prod.fst ↔
      block = id ∧ item.Calls (tables.table .valueTransfer) := by
  rw [observations, call?_eq, Calls]
  cases item.callee? with
  | none => simp [Observation.transfer?]
  | some callee =>
    by_cases h : (tables.table .valueTransfer).covers callee = true <;> simp [Observation.transfer?, h]

end Item

/-! ### Functions -/

namespace Body

/-- The instructions of a function, each with its block, in the order of the visit. -/
def visited (body : Body) : List (Int × Item) := body.blocks.flatMap fun b => b.items.map fun item => (b.id, item)

/-- `read` is the first balance read that stores its result, and `place` is where it does. -/
def FirstRead (tables : Tables) (body : Body) (read : Item) (place : Place) : Prop :=
  IsFirst (fun item => ∃ p, item.Reads tables p) body.items read ∧ read.Reads tables place

/-- `last` is the greatest id of a block in which value is transferred. -/
def LastTransfer (tables : Tables) (body : Body) (last : Int) : Prop :=
  IsGreatest {id | ∃ b ∈ body.blocks, b.id = id ∧ ∃ item ∈ b.items, item.Calls (tables.table .valueTransfer)} last

theorem mem_visited {body : Body} {id : Int} {item : Item} :
    (id, item) ∈ body.visited ↔ ∃ b ∈ body.blocks, b.id = id ∧ item ∈ b.items := by
  simp only [visited, List.mem_flatMap, List.mem_map, Prod.mk.injEq]
  constructor
  · rintro ⟨b, hb, i, hi, rfl, rfl⟩
    exact ⟨b, hb, rfl, hi⟩
  · rintro ⟨b, hb, rfl, hi⟩
    exact ⟨b, hb, item, hi, rfl, rfl⟩

theorem map_snd_visited (body : Body) : body.visited.map Prod.snd = body.items := by
  simp [visited, Graph.items, List.map_flatMap, Function.comp_def]

theorem flatMap_visited {α : Type} (body : Body) (view : Int × Item → List α) :
    body.visited.flatMap view = body.blocks.flatMap fun b => b.items.flatMap fun item => view (b.id, item) := by
  simp only [visited, List.flatMap_assoc, List.flatMap_map]

theorem pairwise_visited (body : Body) : body.visited.Pairwise fun x y => x.1 ≤ y.1 := by
  rw [visited, List.pairwise_flatMap]
  constructor
  · intro b _
    rw [List.pairwise_map]
    exact List.pairwise_of_forall fun _ _ => le_refl b.id
  · refine body.ordered.imp fun {a b} hab => ?_
    intro x hx y hy
    obtain ⟨_, _, rfl⟩ := List.mem_map.1 hx
    obtain ⟨_, _, rfl⟩ := List.mem_map.1 hy
    exact hab.le

theorem filterMap_item?_observations (body : Body) :
    body.observations.filterMap Observation.item? = body.visited := by
  simp only [observations, List.filterMap_flatMap, Item.filterMap_item?_observations, visited]
  congr 1
  funext b
  exact (List.map_eq_flatMap).symm

theorem recorded_observations (body : Body) (block : Int) :
    Reentrancy.recorded body.observations block = (body.visited.filter (·.1 = block)).map Prod.snd := by
  rw [Reentrancy.recorded, filterMap_item?_observations]

theorem mem_recorded_observations {body : Body} {block : Int} {item : Item} :
    item ∈ Reentrancy.recorded body.observations block ↔ ∃ b ∈ body.blocks, b.id = block ∧ item ∈ b.items := by
  rw [recorded_observations, ← mem_visited]
  simp

theorem firstRead?_observations (tables : Tables) (body : Body) :
    Reentrancy.firstRead? tables body.observations = body.items.findSome? (Item.read? tables) := by
  have h : body.observations.filterMap (Observation.read? tables) = body.items.filterMap (Item.read? tables) := by
    simp only [observations, Graph.items, List.filterMap_flatMap, Item.filterMap_read?_observations]
    congr 1
    funext b
    exact (List.filterMap_eq_flatMap_toList ..).symm
  rw [Reentrancy.firstRead?, ← List.head?_filterMap, h, List.head?_filterMap]

theorem mem_keys_transfer?_observations {tables : Tables} {body : Body} {id : Int} :
    id ∈ (body.observations.filterMap (Observation.transfer? tables)).map Prod.fst ↔
      ∃ b ∈ body.blocks, b.id = id ∧ ∃ item ∈ b.items, item.Calls (tables.table .valueTransfer) := by
  simp only [observations, List.filterMap_flatMap, List.map_flatMap, List.mem_flatMap,
    Item.mem_keys_transfer?_observations]
  constructor
  · rintro ⟨b, hb, item, hi, rfl, hc⟩
    exact ⟨b, hb, rfl, item, hi, hc⟩
  · rintro ⟨b, hb, rfl, item, hi, hc⟩
    exact ⟨b, hb, item, hi, rfl, hc⟩

theorem balance_observeAll_iff {tables : Tables} {body : Body} {place : Place} {span : Span} :
    (Reentrancy.observeAll tables {} body.observations).balance = some (place, span) ↔
      ∃ read, body.FirstRead tables read place ∧ read.span = span := by
  rw [Reentrancy.observeAll_empty, firstRead?_observations, List.findSome?_eq_some_iff]
  constructor
  · rintro ⟨before, read, rest, hsplit, hread, hnone⟩
    obtain ⟨hr, hs⟩ := Item.read?_eq_some_iff.1 hread
    exact ⟨read, ⟨⟨before, rest, hsplit, ⟨place, hr⟩, fun i hi => Item.read?_eq_none_iff.1 (hnone i hi)⟩, hr⟩, hs⟩
  · rintro ⟨read, ⟨⟨before, rest, hsplit, -, hnone⟩, hr⟩, hs⟩
    exact ⟨before, read, rest, hsplit, Item.read?_eq_some_iff.2 ⟨hr, hs⟩,
      fun i hi => Item.read?_eq_none_iff.2 (hnone i hi)⟩

theorem tracked_observeAll_iff {tables : Tables} {body : Body} {place : Place} :
    (Reentrancy.observeAll tables {} body.observations).tracked = some place ↔
      ∃ read, body.FirstRead tables read place := by
  rw [Reentrancy.tracked, Option.map_eq_some_iff]
  constructor
  · rintro ⟨⟨_, span⟩, hb, rfl⟩
    obtain ⟨read, hread, _⟩ := balance_observeAll_iff.1 hb
    exact ⟨read, hread⟩
  · rintro ⟨read, hread⟩
    exact ⟨(place, read.span), balance_observeAll_iff.2 ⟨read, hread, rfl⟩, rfl⟩

theorem isGreatest_transfers_iff {tables : Tables} {body : Body} {last : Int} :
    IsGreatest {b | b ∈ (Reentrancy.observeAll tables {} body.observations).transfers.map Prod.fst} last ↔
      body.LastTransfer tables last := by
  simp only [Reentrancy.observeAll_empty, Assoc.mem_keys_ofPairs, mem_keys_transfer?_observations, LastTransfer]

/-- What comes first of all comes first in its block. -/
theorem find?_of_isFirst {xs : List (Int × Item)} {p : Item → Bool} {last : Int} {x : Int × Item}
    (h : IsFirst (fun y => last < y.1 ∧ p y.2 = true) xs x) :
    ((xs.filter (·.1 = x.1)).map Prod.snd).find? p = some x.2 := by
  obtain ⟨before, rest, rfl, hx, hnot⟩ := h
  have hskip : ((before.filter (·.1 = x.1)).map Prod.snd).find? p = none := by
    rw [List.find?_eq_none]
    intro i hi hpi
    obtain ⟨y, hy, rfl⟩ := List.mem_map.1 hi
    obtain ⟨hy, hyx⟩ := List.mem_filter.1 hy
    exact hnot y hy ⟨by rw [of_decide_eq_true hyx]; exact hx.1, hpi⟩
  rw [List.filter_append, List.map_append, List.find?_append, hskip, Option.none_or,
    List.filter_cons_of_pos (by simp), List.map_cons, List.find?_cons_of_pos hx.2]

/-- In a list that is sorted by block, what comes first by block id and then by position in the block comes first
in the list. -/
theorem isFirst_of_firstAfter {xs : List (Int × Item)} (hs : xs.Pairwise fun x y => x.1 ≤ y.1) {p : Item → Bool}
    {last block : Int} {write : Item}
    (h : Reentrancy.FirstAfter (fun b => (xs.filter (·.1 = b)).map Prod.snd) p last block write) :
    IsFirst (fun x => last < x.1 ∧ p x.2 = true) xs (block, write) := by
  obtain ⟨hlt, hfind, hearlier⟩ := h
  have hmem : (block, write) ∈ xs := by
    obtain ⟨x, hx, rfl⟩ := List.mem_map.1 (List.mem_of_find?_eq_some hfind)
    obtain ⟨hx, hb⟩ := List.mem_filter.1 hx
    rwa [← of_decide_eq_true hb]
  have hwrite : last < block ∧ p write = true := ⟨hlt, List.find?_some hfind⟩
  -- of the first element with the property it remains to show that it is this one
  obtain ⟨x, hfirst⟩ := exists_isFirst (p := fun x : Int × Item => last < x.1 ∧ p x.2 = true) hmem hwrite
  have hx := find?_of_isFirst hfirst
  have hle : x.1 ≤ block := by
    obtain ⟨before, rest, rfl, -, hnot⟩ := hfirst
    rw [List.mem_append, List.mem_cons] at hmem
    rw [List.pairwise_append, List.pairwise_cons] at hs
    rcases hmem with hmem | hmem | hmem
    · exact absurd hwrite (hnot _ hmem)
    · rw [← hmem]
    · exact hs.2.1.1 _ hmem
  have hge : block ≤ x.1 := by
    obtain ⟨_, _, _, hpx, _⟩ := hfirst
    by_contra hc
    have hnone := hearlier x.1 hpx.1 (not_le.1 hc) x.2 (List.mem_of_find?_eq_some hx)
    simp [hnone] at hpx
  obtain rfl : x.1 = block := le_antisymm hle hge
  obtain rfl : x.2 = write := Option.some.inj (hx.symm.trans hfind)
  exact hfirst

/-- The verdict on what a visit observes. -/
theorem check_observeAll_iff {tables : Tables} {body : Body} :
    (Reentrancy.observeAll tables {} body.observations).check tables = true ↔
      ∃ read place last, body.FirstRead tables read place ∧ body.LastTransfer tables last ∧
        ∃ b ∈ body.blocks, last < b.id ∧ ∃ item ∈ b.items, item.Writes tables place.base := by
  rw [Reentrancy.check_iff (Reentrancy.nodup_blocks_observeAll ..), Reentrancy.itemsIn_observeAll]
  simp only [isGreatest_transfers_iff, tracked_observeAll_iff, mem_recorded_observations, Item.writesBalance_iff]
  constructor
  · rintro ⟨place, last, block, item, ⟨b, hb, rfl, hi⟩, ⟨read, hread⟩, hl, hlt, hw⟩
    exact ⟨read, place, last, hread, hl, b, hb, hlt, item, hi, hw⟩
  · rintro ⟨read, place, last, hread, hl, b, hb, hlt, item, hi, hw⟩
    exact ⟨place, last, b.id, item, ⟨b, hb, rfl, hi⟩, ⟨read, hread⟩, hl, hlt, hw⟩

/-- A positive verdict points from the balance read to the first write after the last transfer. -/
theorem span_observeAll {tables : Tables} {body : Body}
    (h : (Reentrancy.observeAll tables {} body.observations).check tables = true) :
    ∃ read place last write, body.FirstRead tables read place ∧ body.LastTransfer tables last ∧
      IsFirst (fun x => last < x.1 ∧ x.2.Writes tables place.base) body.visited write ∧
      (Reentrancy.observeAll tables {} body.observations).span tables = read.span.join write.2.span := by
  obtain ⟨write, hw⟩ := Option.isSome_iff_exists.1 h
  obtain ⟨place, last, block, ht, hl, hf⟩ :=
    (Reentrancy.violation?_eq_some_iff (Reentrancy.nodup_blocks_observeAll ..)).1 hw
  obtain ⟨⟨_, span⟩, hbal, rfl⟩ := Option.map_eq_some_iff.1 ht
  obtain ⟨read, hread, rfl⟩ := balance_observeAll_iff.1 hbal
  rw [Reentrancy.itemsIn_observeAll, funext body.recorded_observations] at hf
  have hfirst := isFirst_of_firstAfter body.pairwise_visited hf
  simp only [Item.writesBalance_iff] at hfirst
  refine ⟨read, _, last, (block, write), hread, isGreatest_transfers_iff.1 hl, hfirst, ?_⟩
  rw [Reentrancy.span_of_violation hw, Reentrancy.balanceSpan, hbal]
  rfl

end Body

/-! ### The finding -/

namespace Checker

theorem finding?_reentrancy {c : Checker} {body : Body} {report : Report} (on : .reentrancy ∈ c.enabled)
    (h : c.visit body = .ok report) :
    report.finding? .reentrancy = some ((Reentrancy.observeAll c.tables {} body.observations).finding c.tables) := by
  obtain ⟨findings, _, hr⟩ := Outcome.bind_eq_ok.1 h
  obtain rfl := Outcome.pure_eq_ok.1 hr
  simp [Report.finding?, reentrancyFindings, on, Reentrancy.finding]

/-- With the reentrancy detector on and constants whose paths are texts or missing, a visit reports on reentrancy.
The finding is positive if a balance is read into a variable, value is transferred, and the variable is written in a
block after that of the last transfer. It then spans from the first such read to the first such write, and it has no
span otherwise. -/
theorem visit_reentrancy (c : Checker) (body : Body) (on : .reentrancy ∈ c.enabled)
    (texts : ∀ path ∈ body.constantPaths, path = .null ∨ ∃ s, path = .string s) :
    ∃ report f, c.visit body = .ok report ∧ report.finding? .reentrancy = some f ∧
      (f.triggered = true ↔ ∃ read place last, body.FirstRead c.tables read place ∧
        body.LastTransfer c.tables last ∧
        ∃ b ∈ body.blocks, last < b.id ∧ ∃ item ∈ b.items, item.Writes c.tables place.base) ∧
      (f.triggered = true → ∃ read place last write, body.FirstRead c.tables read place ∧
        body.LastTransfer c.tables last ∧
        IsFirst (fun x => last < x.1 ∧ x.2.Writes c.tables place.base) body.visited write ∧
        f.span = read.span.join write.2.span) ∧
      (f.triggered = false → f.span = .empty) := by
  have hpaths : ∀ path ∈ body.constantPaths, path.truthy = true → path.IsPath := by
    intro path hp ht
    obtain rfl | ⟨s, rfl⟩ := texts path hp
    · simp [Value.truthy] at ht
    · exact trivial
  obtain ⟨report, hr⟩ := (c.exists_visit_ok body).2 (.inr hpaths)
  exact ⟨report, _, hr, finding?_reentrancy on hr, Body.check_observeAll_iff, Body.span_observeAll,
    Reentrancy.span_of_not_check⟩

/-- A withdrawal that pays out the balance before it writes it back. -/
def withdrawal : Body where
  name := "withdraw"
  blocks :=
    [{ id := -1
       terminator := some ⟨.call "Map::<K>::get" [] (some ⟨1, []⟩) (some 0),
         { lo := 10, hi := 20, line := 2 }⟩ },
     { id := 0
       terminator := some ⟨.call "pay" [.constant (.int 7) (.ofString "MAX")] none (some 3), {}⟩ },
     { id := 3
       statements := [⟨.assign ⟨1, [.deref]⟩ (.use .unit), { lo := 40, hi := 50, line := 5 }⟩] }]
  ordered := by decide

/-- A checker with tables for that function alone. -/
def ofWithdrawal : Checker where
  tables := .ofEntries [(.balanceRead, "Map::get"), (.valueTransfer, "pay")]

theorem visit_reentrancy_withdrawal :
    .reentrancy ∈ ofWithdrawal.enabled ∧
    (∀ path ∈ withdrawal.constantPaths, path = .null ∨ ∃ s, path = .string s) ∧
    ∃ report f, ofWithdrawal.visit withdrawal = .ok report ∧ report.finding? .reentrancy = some f ∧
      f.triggered = true ∧ f.span = { lo := 10, hi := 50, line := 2 } := by
  have texts : ∀ path ∈ withdrawal.constantPaths, path = .null ∨ ∃ s, path = .string s := by
    have h : withdrawal.constantPaths = [.ofString "MAX", .null] := rfl
    rw [h]
    simp [Value.ofString]
  refine ⟨by decide, texts, ?_⟩
  obtain ⟨report, f, hr, hf, htrig, -, -⟩ := visit_reentrancy ofWithdrawal withdrawal (by decide) texts
  have hread : ∃ read, withdrawal.FirstRead ofWithdrawal.tables read ⟨1, []⟩ :=
    ⟨_, ⟨[], _, rfl, ⟨⟨1, []⟩, ⟨_, rfl, by decide +kernel⟩, rfl⟩, by simp⟩, ⟨_, rfl, by decide +kernel⟩, rfl⟩
  have hlast : withdrawal.LastTransfer ofWithdrawal.tables 0 := by
    refine ⟨⟨_, .tail _ (.head _), rfl, _, .head _, _, rfl, by decide +kernel⟩, ?_⟩
    rintro id ⟨b, hb, rfl, item, hi, callee, hc, -⟩
    simp only [withdrawal, List.mem_cons, List.not_mem_nil, or_false] at hb
    rcases hb with rfl | rfl | rfl
    · decide
    · decide
    · simp [Block.items] at hi
      simp [hi, Item.callee?] at hc
  have ht : f.triggered = true := by
    obtain ⟨read, hread⟩ := hread
    exact htrig.2 ⟨read, _, 0, hread, hlast, _, .tail _ (.tail _ (.head _)), by decide, _, .head _,
      .assign _ _ _ rfl (by simp)⟩
  refine ⟨report, f, hr, hf, ht, ?_⟩
  have hv : (ofWithdrawal.visit withdrawal).map (·.finding? .reentrancy) =
      .ok (some ⟨.reentrancy, true, { lo := 10, hi := 50, line := 2 }⟩) := by decide +kernel
  rw [hr] at hv
  rw [Option.some.inj (hf.symm.trans (Except.ok.inj hv))]

end Checker

end ContractLint
