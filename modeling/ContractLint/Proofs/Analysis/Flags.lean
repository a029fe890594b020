import ContractLint.Proofs.Reentrancy.Visit

/-! The findings of the flag detectors, said of the syntax of a function. A flag is raised if a path of its table stands
anywhere in the function, be it called or named by a constant, and it has the span of the first instruction where one
does. -/

namespace ContractLint

open Outcome

/-! ### Where paths stand -/

/-- The operand is a constant that names an item by a path that is not empty. -/
inductive Operand.Names (path : Text) : Operand → Prop
  | constant (value : Value) (nonempty : path.isEmpty = false) : Names path (.constant value (.string path))

/-- The path stands in an assigned value: it is called inline, or an operand names it. -/
inductive Rvalue.Mentions (path : Text) : Rvalue → Prop
  | use {operand : Operand} (h : operand.Names path) : Mentions path (.use operand)
  | left {op : BinOp} {left right : Operand} {checked : Bool} (h : left.Names path) :
      Mentions path (.binary op left right checked)
  | right {op : BinOp} {left right : Operand} {checked : Bool} (h : right.Names path) :
      Mentions path (.binary op left right checked)
  | callee {callee : Text} {args : List Operand} (h : path = callee) : Mentions path (.call callee args)
  | argument {callee : Text} {args : List Operand} {operand : Operand} (mem : operand ∈ args)
      (h : operand.Names path) : Mentions path (.call callee args)

inductive Guard.Mentions (path : Text) : Guard → Prop
  | left {op : BinOp} {left right : Operand} (h : left.Names path) : Mentions path (.overflow op left right)
  | right {op : BinOp} {left right : Operand} (h : right.Names path) : Mentions path (.overflow op left right)
  | length {length index : Operand} (h : length.Names path) : Mentions path (.boundsCheck length index)
  | index {length index : Operand} (h : index.Names path) : Mentions path (.boundsCheck length index)
  | divisor {operand : Operand} (h : operand.Names path) : Mentions path (.divisionByZero operand)

inductive TerminatorKind.Mentions (path : Text) : TerminatorKind → Prop
  | discriminant {discriminant : Operand} {targets : List (Int × Int)} {otherwise : Option Int}
      (h : discriminant.Names path) : Mentions path (.switchInt discriminant targets otherwise)
  | callee {callee : Text} {args : List Operand} {destination : Option Place} {target : Option Int}
      (h : path = callee) : Mentions path (.call callee args destination target)
  | argument {callee : Text} {args : List Operand} {destination : Option Place} {target : Option Int}
      {operand : Operand} (mem : operand ∈ args) (h : operand.Names path) :
      Mentions path (.call callee args destination target)
  | condition {guard : Guard} {condition : Operand} {expected : Bool} {target : Option Int}
      (h : condition.Names path) : Mentions path (.assert guard (some condition) expected target)
  | guard {guard : Guard} {condition : Option Operand} {expected : Bool} {target : Option Int}
      (h : guard.Mentions path) : Mentions path (.assert guard condition expected target)

/-- The path stands in an instruction. -/
inductive Item.Mentions (path : Text) : Item → Prop
  | assign {destination : Place} {source : Rvalue} {span : Span} (h : source.Mentions path) :
      Mentions path (.statement ⟨.assign destination source, span⟩)
  | terminator {kind : TerminatorKind} {span : Span} (h : kind.Mentions path) :
      Mentions path (.terminator ⟨kind, span⟩)

/-- A path of the table stands in the instruction. -/
def Item.Refers (t : Table) (item : Item) : Prop := ∃ path, item.Mentions path ∧ t.covers path = true

/-! ### The paths that the analysis collects -/

theorem Operand.names_iff {o : Operand} {path : Text} : o.Names path ↔ o.path? = some (.string path) := by
  rw [path?_eq_some_iff]
  constructor
  · rintro ⟨value, hpath⟩
    simp [constantPath?, Value.truthy, hpath]
  · rintro ⟨ho, hpath⟩
    cases o with
    | copy place => cases ho
    | move place => cases ho
    | constant value p =>
      cases ho
      exact .constant value (by simpa [Value.truthy] using hpath)

theorem Guard.mentions_iff {g : Guard} {path : Text} : g.Mentions path ↔ ∃ o ∈ g.operands, o.Names path := by
  constructor
  · intro h
    cases h with
    | left h | length h | divisor h => exact ⟨_, .head _, h⟩
    | right h | index h => exact ⟨_, .tail _ (.head _), h⟩
  · rintro ⟨o, ho, h⟩
    cases g with
    | overflow op left right =>
      obtain rfl | rfl : o = left ∨ o = right := by simpa [operands] using ho
      · exact .left h
      · exact .right h
    | boundsCheck length index =>
      obtain rfl | rfl : o = length ∨ o = index := by simpa [operands] using ho
      · exact .length h
      · exact .index h
    | divisionByZero operand =>
      obtain rfl : o = operand := by simpa [operands] using ho
      exact .divisor h

theorem Item.mem_paths {item : Item} {path : Text} :
    .string path ∈ item.paths ↔
      (∃ callee, item.callee? = some callee ∧ path = callee) ∨ ∃ o ∈ item.operands, o.Names path := by
  simp only [paths, List.mem_append, List.mem_map, Option.mem_toList, List.mem_filterMap, Operand.names_iff,
    Value.string.injEq, eq_comm]

theorem Rvalue.mentions_iff {r : Rvalue} {path : Text} (destination : Place) (span : Span) :
    r.Mentions path ↔ .string path ∈ (Item.statement ⟨.assign destination r, span⟩).paths := by
  rw [Item.mem_paths]
  constructor
  · intro h
    cases h with
    | use h | left h => exact .inr ⟨_, .head _, h⟩
    | right h => exact .inr ⟨_, .tail _ (.head _), h⟩
    | callee h => exact .inl ⟨_, rfl, h⟩
    | argument mem h => exact .inr ⟨_, mem, h⟩
  · rintro (⟨callee, hcallee, hpath⟩ | ⟨o, ho, h⟩)
    · cases r with
      | call name args =>
        cases hcallee
        exact .callee hpath
      | _ => cases hcallee
    · cases r with
      | use operand =>
        obtain rfl : o = operand := by simpa [Item.operands, operands] using ho
        exact .use h
      | binary op left right checked =>
        obtain rfl | rfl : o = left ∨ o = right := by simpa [Item.operands, operands] using ho
        · exact .left h
        · exact .right h
      | ref place mutable => cases ho
      | call callee args => exact .argument ho h

theorem TerminatorKind.mentions_iff {kind : TerminatorKind} {path : Text} (span : Span) :
    kind.Mentions path ↔ .string path ∈ (Item.terminator ⟨kind, span⟩).paths := by
  rw [Item.mem_paths]
  constructor
  · intro h
    cases h with
    | discriminant h => exact .inr ⟨_, .head _, h⟩
    | callee h => exact .inl ⟨_, rfl, h⟩
    | argument mem h => exact .inr ⟨_, mem, h⟩
    | condition h => exact .inr ⟨_, .head _, h⟩
    | guard h =>
      obtain ⟨o, ho, h⟩ := Guard.mentions_iff.1 h
      exact .inr ⟨o, List.mem_append_right _ ho, h⟩
  · rintro (⟨callee, hcallee, hpath⟩ | ⟨o, ho, h⟩)
    · cases kind with
      | call name args destination target =>
        cases hcallee
        exact .callee hpath
      | _ => cases hcallee
    · cases kind with
      | switchInt discriminant targets otherwise =>
        obtain rfl : o = discriminant := by simpa [Item.operands] using ho
        exact .discriminant h
      | call callee args destination target => exact .argument ho h
      | assert protects condition expected target =>
        obtain hcondition | hguard := List.mem_append.1 ho
        · obtain rfl : condition = some o := by simpa using hcondition
          exact .condition h
        · exact .guard (Guard.mentions_iff.2 ⟨o, hguard, h⟩)
      | _ => cases ho

theorem Item.mentions_iff {item : Item} {path : Text} : item.Mentions path ↔ .string path ∈ item.paths := by
  constructor
  · intro h
    cases h with
    | assign h => exact (Rvalue.mentions_iff ..).1 h
    | terminator h => exact (TerminatorKind.mentions_iff _).1 h
  · intro h
    cases item with
    | statement s =>
      obtain ⟨kind, span⟩ := s
      cases kind with
      | assign destination source => exact .assign ((Rvalue.mentions_iff ..).2 h)
      | _ => cases h
    | terminator t => exact .terminator ((TerminatorKind.mentions_iff t.span).2 h)

theorem Item.exists_text_of_mem_paths {item : Item} {v : Value}
    (texts : ∀ path ∈ item.constantPaths, path = .null ∨ ∃ s, path = .string s) (hv : v ∈ item.paths) :
    ∃ path, v = .string path := by
  obtain hcallee | hconstant := List.mem_append.1 hv
  · obtain ⟨callee, -, rfl⟩ := List.mem_map.1 hcallee
    exact ⟨callee, rfl⟩
  · obtain ⟨o, ho, hpath⟩ := List.mem_filterMap.1 hconstant
    obtain ⟨hpath, htruthy⟩ := Operand.path?_eq_some_iff.1 hpath
    obtain rfl | htext := texts v (List.mem_filterMap.2 ⟨o, ho, hpath⟩)
    · cases htruthy
    · exact htext

theorem Item.any_references_iff {item : Item} {references : List Text} (t : Table)
    (texts : ∀ path ∈ item.constantPaths, path = .null ∨ ∃ s, path = .string s)
    (h : item.references = .ok references) : references.any t.entries.contains = true ↔ item.Refers t := by
  have hnormal (path : Text) : Path.ofValue (.string path) = .ok (Path.normalize path) := rfl
  simp only [List.any_eq_true, mem_mapM h, Refers, mentions_iff]
  constructor
  · rintro ⟨reference, ⟨v, hv, hreference⟩, hentry⟩
    obtain ⟨path, rfl⟩ := exists_text_of_mem_paths texts hv
    rw [hnormal, Except.ok.injEq] at hreference
    subst hreference
    exact ⟨path, hv, hentry⟩
  · rintro ⟨path, hpath, hcovers⟩
    exact ⟨Path.normalize path, ⟨.string path, hpath, hnormal path⟩, hcovers⟩

/-! ### The first of them -/

theorem IsFirst.mem {α : Type} {p : α → Prop} {x : α} {xs : List α} (h : IsFirst p xs x) : x ∈ xs ∧ p x := by
  obtain ⟨before, rest, rfl, hx, -⟩ := h
  exact ⟨List.mem_append_right before List.mem_cons_self, hx⟩

theorem IsFirst.head {α : Type} {p : α → Prop} {x : α} (xs : List α) (hx : p x) : IsFirst p (x :: xs) x :=
  ⟨[], xs, rfl, hx, fun _ hy => absurd hy List.not_mem_nil⟩

theorem IsFirst.tail {α : Type} {p : α → Prop} {x y : α} {xs : List α} (hx : ¬ p x) (h : IsFirst p xs y) :
    IsFirst p (x :: xs) y := by
  obtain ⟨before, rest, rfl, hy, hbefore⟩ := h
  exact ⟨x :: before, rest, rfl, hy, List.forall_mem_cons.2 ⟨hx, hbefore⟩⟩

/-- The spans that a table is referred to from begin with that of the first instruction that refers to it. -/
theorem Table.head?_referencesIn (t : Table) {items : List Item} {references : List (Span × List Text)}
    (h : List.Forall₂ (fun item r => r.1 = item.span ∧ (r.2.any t.entries.contains = true ↔ item.Refers t))
      items references) :
    (t.referencesIn references).head? = none ∧ (∀ item ∈ items, ¬ item.Refers t) ∨
      ∃ item, IsFirst (Item.Refers t) items item ∧ (t.referencesIn references).head? = some item.span := by
  induction h with
  | nil => exact .inl ⟨rfl, fun _ hitem => absurd hitem List.not_mem_nil⟩
  | @cons item r items references hr _ ih =>
    obtain ⟨hspan, hrefers⟩ := hr
    by_cases hitem : item.Refers t
    · refine .inr ⟨item, .head items hitem, ?_⟩
      simp [referencesIn, hrefers.2 hitem, hspan]
    · have hskip : t.referencesIn (r :: references) = t.referencesIn references := by
        simp [referencesIn, mt hrefers.1 hitem]
      rw [hskip]
      obtain ⟨hnone, hitems⟩ | ⟨first, hfirst, hhead⟩ := ih
      · exact .inl ⟨hnone, List.forall_mem_cons.2 ⟨hitem, hitems⟩⟩
      · exact .inr ⟨first, hfirst.tail hitem, hhead⟩

theorem Body.exists_references_of_texts (body : Body)
    (texts : ∀ path ∈ body.constantPaths, path = .null ∨ ∃ s, path = .string s) :
    ∃ references, body.references = .ok references := by
  refine body.exists_references_ok.2 fun path hpath htruthy => ?_
  obtain rfl | ⟨s, rfl⟩ := texts path hpath
  · cases htruthy
  · trivial

theorem Body.forall₂_references {body : Body} {references : List (Span × List Text)} (t : Table)
    (texts : ∀ path ∈ body.constantPaths, path = .null ∨ ∃ s, path = .string s)
    (h : body.references = .ok references) :
    List.Forall₂ (fun item r => r.1 = item.span ∧ (r.2.any t.entries.contains = true ↔ item.Refers t))
      body.items references := by
  have hitems : ∀ item ∈ body.items, ∀ path ∈ item.constantPaths, path = .null ∨ ∃ s, path = .string s := by
    intro item hitem path hpath
    exact texts path (List.mem_flatMap.2 ⟨item, hitem, hpath⟩)
  refine ((List.forall₂_and_left _ _).2 ⟨hitems, mapM_eq_ok.1 h⟩).imp ?_
  rintro item r ⟨htexts, hr⟩
  obtain ⟨paths, hpaths, hr⟩ := bind_eq_ok.1 hr
  obtain rfl := pure_eq_ok.1 hr
  exact ⟨rfl, item.any_references_iff t htexts hpaths⟩

/-! ### The finding -/

namespace Checker

theorem find?_flags {c : Checker} {f : FlagKind} (on : f.detector ∈ c.enabled) :
    c.flags.find? (fun g => g.detector = f.detector) = some f := by
  rw [flags, List.find?_filter]
  cases f <;> simp_all [FlagKind.all, FlagKind.detector]

theorem find?_reentrancyFindings (c : Checker) (body : Body) (f : FlagKind) :
    (c.reentrancyFindings body).find? (·.kind = f.detector) = none := by
  have hkind : DetectorKind.reentrancy ≠ f.detector := by cases f <;> decide
  unfold reentrancyFindings
  split_ifs
  · simp [Reentrancy.finding, hkind]
  · rfl

theorem finding?_flag {c : Checker} {body : Body} {report : Report} {f : FlagKind} (on : f.detector ∈ c.enabled)
    (h : c.visit body = .ok report) :
    ∃ references, body.references = .ok references ∧
      report.finding? f.detector = some (c.flagFinding references f) := by
  obtain ⟨findings, hfindings, hreport⟩ := bind_eq_ok.1 h
  obtain rfl := pure_eq_ok.1 hreport
  have hflags : ¬ c.flags.isEmpty = true := by
    rw [List.isEmpty_iff, flags_eq_nil_iff]
    exact fun hoff => hoff f on
  rw [flagFindings, if_neg hflags, map_eq_ok] at hfindings
  obtain ⟨references, hreferences, rfl⟩ := hfindings
  refine ⟨references, hreferences, ?_⟩
  have hkind : (fun x : Finding => decide (x.kind = f.detector)) ∘ c.flagFinding references =
      fun g => decide (g.detector = f.detector) := rfl
  rw [Report.finding?, List.find?_append, find?_reentrancyFindings, Option.none_or, List.find?_map, hkind,
    find?_flags on, Option.map_some]

theorem flagFinding_eq (c : Checker) (references : List (Span × List Text)) (f : FlagKind) :
    let raised := ((c.tables.table f.table).referencesIn references).head?
    c.flagFinding references f = ⟨f.detector, raised.isSome, raised.getD .empty⟩ := by
  simp [flagFinding, Flag.finding, Flag.check, Flag.span, Flag.foldl_record]

theorem exists_visit_of_texts (c : Checker) {body : Body}
    (texts : ∀ path ∈ body.constantPaths, path = .null ∨ ∃ s, path = .string s) :
    ∃ report, c.visit body = .ok report :=
  (c.exists_visit_ok body).2 (.inr (body.exists_references_ok.1 (body.exists_references_of_texts texts)))

/-- With a flag detector on and constants whose paths are texts or missing, a visit reports on it. The finding is
positive if a path of its table stands in some instruction. It then has the span of the first such instruction in the
order of the visit, and it has no span otherwise. -/
theorem visit_flag (c : Checker) (body : Body) (f : FlagKind) (on : f.detector ∈ c.enabled)
    (texts : ∀ path ∈ body.constantPaths, path = .null ∨ ∃ s, path = .string s) :
    ∃ report x, c.visit body = .ok report ∧ report.finding? f.detector = some x ∧
      (x.triggered = true ↔ ∃ item ∈ body.items, item.Refers (c.tables.table f.table)) ∧
      (x.triggered = true → ∃ item, IsFirst (Item.Refers (c.tables.table f.table)) body.items item ∧
        x.span = item.span) ∧
      (x.triggered = false → x.span = .empty) := by
  obtain ⟨report, hreport⟩ := c.exists_visit_of_texts texts
  obtain ⟨references, hreferences, hfinding⟩ := finding?_flag on hreport
  refine ⟨report, _, hreport, hfinding, ?_⟩
  rw [flagFinding_eq]
  have hall := body.forall₂_references (c.tables.table f.table) texts hreferences
  obtain ⟨hnone, hitems⟩ | ⟨first, hfirst, hhead⟩ := Table.head?_referencesIn _ hall
  · have hrefers : ¬ ∃ item ∈ body.items, item.Refers (c.tables.table f.table) := by
      rintro ⟨item, hitem, h⟩
      exact hitems item hitem h
    simp [hnone, hrefers]
  · have hrefers : ∃ item ∈ body.items, item.Refers (c.tables.table f.table) := ⟨first, hfirst.mem⟩
    rw [hhead]
    exact ⟨⟨fun _ => hrefers, fun _ => rfl⟩, fun _ => ⟨first, hfirst, rfl⟩, fun h => absurd h (by simp)⟩

/-- A draw that is checked before it is made: the generator is named in the condition of an assertion, and called in
a block after it. -/
def draw : Body where
  name := "draw"
  blocks :=
    [{ id := 2
       statements := [⟨.storageLive 1, { line := 7 }⟩]
       terminator := some ⟨.assert (.divisionByZero .unit) (some (.constant .null (.ofString "rand::random::<u64>")))
         true (some 5), { lo := 30, hi := 40, line := 8 }⟩ },
     { id := 5
       terminator := some ⟨.call "rand::random" [] none none, { lo := 50, hi := 60, line := 9 }⟩ }]
  ordered := by decide

theorem visit_flag_draw :
    FlagKind.badRandomness.detector ∈ ({} : Checker).enabled ∧
    (∀ path ∈ draw.constantPaths, path = .null ∨ ∃ s, path = .string s) ∧
    ∃ report x, ({} : Checker).visit draw = .ok report ∧ report.finding? .badRandomness = some x ∧
      x.triggered = true ∧ x.span = { lo := 30, hi := 40, line := 8 } := by
  have texts : ∀ path ∈ draw.constantPaths, path = .null ∨ ∃ s, path = .string s := by
    have h : draw.constantPaths = [.ofString "rand::random::<u64>", .null] := rfl
    rw [h]
    simp [Value.ofString]
  refine ⟨by decide, texts, ?_⟩
  obtain ⟨report, x, hreport, hx, htriggered, -, -⟩ := visit_flag {} draw .badRandomness (by decide) texts
  have ht : x.triggered = true := by
    refine htriggered.2 ⟨_, .tail _ (.head _), (("rand::random::<u64>" : String) : Text), ?_, by decide +kernel⟩
    exact .terminator (.condition (.constant .null rfl))
  refine ⟨report, x, hreport, hx, ht, ?_⟩
  have hv : (({} : Checker).visit draw).map (·.finding? .badRandomness) =
      .ok (some ⟨.badRandomness, true, { lo := 30, hi := 40, line := 8 }⟩) := by decide +kernel
  rw [hreport] at hv
  rw [Option.some.inj (hx.symm.trans (Except.ok.inj hv))]

end Checker

end ContractLint
