import ContractLint.Proofs.Dump.Blocks
import ContractLint.Proofs.Dump.Format

/-! The loader follows the format: whichever dump of a program it is given, it returns that program. Each loading
function is compared with the format of what it loads, from the fields of an instruction up to the program. -/

namespace ContractLint.Dump

open Outcome

/-! ### Fields -/

section Fields

variable {c : Context} {v : Value} {what : Text} {key : String} {α : Type} {IsDump : Value → α → Prop}

theorem ne_null_of_get? {x : Value} (h : v.get? key = some x) : v ≠ .null := by
  rintro rfl
  cases h

theorem HasKind.require {kind : String} (h : HasKind v kind) : c.require what v "kind" = .ok (.ofString kind) :=
  Context.require_eq_ok.2 h

theorem Has.requireInt {n : Int} (h : Has v key IsInt n) : c.requireInt what v key = .ok n := by
  obtain ⟨x, hx, rfl⟩ := h
  exact bind_eq_ok.2 ⟨_, Context.require_eq_ok.2 hx, rfl⟩

theorem HasOr.getD {default x : Value} (h : HasOr v key default x) : (v.get? key).getD default = x := by
  obtain h | ⟨h, rfl⟩ := h
  · rw [h, Option.getD_some]
  · rw [h, Option.getD_none]

theorem HasOr.boolField {default b : Bool} (h : HasOr v key (.bool default) (.bool b)) :
    boolField v key default = b := by
  obtain h | ⟨h, hb⟩ := h
  · rw [Dump.boolField, h]
    rfl
  · rw [Dump.boolField, h, Value.bool.inj hb]
    rfl

/-- Elements that load one by one make up a list. -/
theorem mapM_of_forall₂ {load : Value → Except Failure α} (hload : ∀ x a, IsDump x a → load x = .ok a)
    {xs : List Value} {as : List α} (h : List.Forall₂ IsDump xs as) : xs.mapM load = .ok as :=
  mapM_eq_ok.2 (h.imp hload)

theorem HasList.load {load : Value → Except Failure α} {as : List α} (h : HasList v key IsDump as)
    (hload : ∀ x a, IsDump x a → load x = .ok a) : ∃ xs, listField v key = .ok xs ∧ xs.mapM load = .ok as := by
  obtain ⟨hv, rfl⟩ | ⟨xs, hv, hxs⟩ := h
  · exact ⟨[], by rw [listField, hv]; rfl, rfl⟩
  · exact ⟨xs, by rw [listField, hv]; rfl, mapM_of_forall₂ hload hxs⟩

theorem HasOption.load {load : Value → Except Failure α} {o : Option α} (h : HasOption v key IsDump o)
    (hnull : ∀ x a, IsDump x a → x ≠ .null) (hload : ∀ x a, IsDump x a → load x = .ok a) :
    (v.given? key).mapM load = .ok o := by
  cases o with
  | none =>
    have hv : v.given? key = none := h
    rw [hv, Option.mapM_none]
    rfl
  | some a =>
    obtain ⟨x, hx, ha⟩ := h
    rw [given?_eq_some_iff.2 ⟨hx, hnull x a ha⟩]
    exact map_eq_ok.2 ⟨a, hload x a ha, rfl⟩

theorem HasOption.intField? {o : Option Int} (h : HasOption v key IsInt o) : intField? v key = .ok o := by
  apply h.load
  · rintro _ n rfl
    simp
  · rintro _ n rfl
    rfl

end Fields

/-! ### Instructions -/

section Instructions

variable {c : Context} {v : Value}

theorem span_of_isSpan {s : Span} (h : IsSpan c.file v s) : span c v = .ok s := by
  have hfields : spanFields c v = .ok s := by
    simp only [spanFields, h.file.getD, h.lo.getD, h.hi.getD, h.line.getD, h.column.getD, Value.toInt_int]
    rfl
  have hobject := h.object
  cases v with
  | object fields => rw [span, hfields]
  | _ => cases hobject

theorem projection_of_isProjection {p : Projection} (h : IsProjection v p) : projection c v = .ok p := by
  cases p with
  | deref =>
    have hkind : HasKind v "deref" := h
    exact bind_eq_ok.2 ⟨_, hkind.require, rfl⟩
  | field n | index n | constantIndex n =>
    obtain ⟨hkind, hn⟩ := h
    refine bind_eq_ok.2 ⟨_, hkind.require, ?_⟩
    exact bind_eq_ok.2 ⟨n, hn.requireInt, rfl⟩

theorem place_of_isPlace {p : Place} (h : IsPlace v p) : place c v = .ok p := by
  obtain ⟨⟨x, hx, rfl⟩, hsteps⟩ := h
  obtain ⟨xs, hxs, hps⟩ := hsteps.load fun _ _ => projection_of_isProjection (c := c)
  simp only [place, bind_eq_ok, Context.require_eq_ok, pure_eq_ok]
  exact ⟨_, hx, xs, hxs, _, hps, p.base, rfl, rfl⟩

theorem operand_of_isOperand {o : Operand} (h : IsOperand v o) : operand c v = .ok o := by
  cases o with
  | copy p | move p =>
    obtain ⟨hkind, x, hx, hp⟩ := h
    refine bind_eq_ok.2 ⟨_, hkind.require, ?_⟩
    simp only [Value.string?_ofString, bind_eq_ok, Context.require_eq_ok, pure_eq_ok]
    exact ⟨x, hx, p, place_of_isPlace hp, rfl⟩
  | constant value path =>
    obtain ⟨hkind, hvalue, hpath⟩ := h
    refine bind_eq_ok.2 ⟨_, hkind.require, ?_⟩
    simp only [Value.string?_ofString, hvalue.getD, hpath.getD, pure_eq_ok]

theorem arguments_of_hasArguments {args : List Operand} (h : HasArguments v args) : arguments c v = .ok args := by
  obtain ⟨hv, rfl⟩ | ⟨hv, rfl⟩ | ⟨xs, hv, hxs⟩ := h
  · rw [arguments, hv]
    rfl
  · rw [arguments, hv]
    rfl
  · rw [arguments, hv]
    -- An array that counts as false is one without elements, so passing it over loses nothing.
    cases hxs with
    | nil => rfl
    | @cons x _ xs _ hx hrest =>
      have hparts : convert (Value.array (x :: xs)).parts = .ok (x :: xs) := rfl
      have hoperand : ∀ x o, IsOperand x o → operand c x = .ok o := fun _ _ => operand_of_isOperand
      exact bind_eq_ok.2 ⟨_, hparts, mapM_of_forall₂ hoperand (.cons hx hrest)⟩

theorem binOp_of_isString {op : BinOp} (h : IsString v op.name) : binOp c v = .ok op := by
  rw [h, ← Value.ofString, binOp, Value.string?_ofString, Option.bind_some, BinOp.ofName?_name]

theorem binary_of_hasBinary {kind : Text} {op : BinOp} {left right : Operand} (h : HasBinary v op left right) :
    binary c kind v = .ok (op, left, right) := by
  obtain ⟨⟨x, hx, hop⟩, ⟨y, hy, hleft⟩, ⟨z, hz, hright⟩⟩ := h
  simp only [binary, bind_eq_ok, Context.require_eq_ok, pure_eq_ok]
  exact ⟨x, hx, op, binOp_of_isString hop, y, hy, left, operand_of_isOperand hleft, z, hz, right,
    operand_of_isOperand hright, rfl⟩

theorem rvalue_of_isRvalue {r : Rvalue} (h : IsRvalue v r) : rvalue c v = .ok r := by
  cases r with
  | use o =>
    obtain ⟨hkind, x, hx, ho⟩ := h
    refine bind_eq_ok.2 ⟨_, hkind.require, ?_⟩
    simp only [Value.string?_ofString, bind_eq_ok, Context.require_eq_ok, pure_eq_ok]
    exact ⟨x, hx, o, operand_of_isOperand ho, rfl⟩
  | binary op left right checked =>
    obtain ⟨hbinary, ⟨hkind, hchecked⟩ | ⟨hkind, rfl⟩⟩ := h
    · refine bind_eq_ok.2 ⟨_, hkind.require, ?_⟩
      simp only [Value.string?_ofString, binary_of_hasBinary hbinary, hchecked.boolField]
      rfl
    · refine bind_eq_ok.2 ⟨_, hkind.require, ?_⟩
      simp only [Value.string?_ofString, binary_of_hasBinary hbinary]
      rfl
  | ref p mutable =>
    obtain ⟨hkind, ⟨x, hx, hp⟩, hmutable⟩ := h
    refine bind_eq_ok.2 ⟨_, hkind.require, ?_⟩
    simp only [Value.string?_ofString, bind_eq_ok, Context.require_eq_ok, pure_eq_ok, hmutable.boolField]
    exact ⟨x, hx, p, place_of_isPlace hp, rfl⟩
  | call callee args =>
    obtain ⟨hkind, ⟨x, hx, rfl⟩, hargs⟩ := h
    refine bind_eq_ok.2 ⟨_, hkind.require, ?_⟩
    simp only [Value.string?_ofString, bind_eq_ok, Context.require_eq_ok, pure_eq_ok]
    exact ⟨_, hx, args, arguments_of_hasArguments hargs, by rw [Value.display_string]⟩

theorem itemHead_of_hasKind {what : Text} {kind : String} {s : Span} (hkind : HasKind v kind)
    (hspan : Has v "span" (IsSpan c.file) s) : itemHead c what v = .ok (.ofString kind, s) := by
  obtain ⟨x, hx, hs⟩ := hspan
  simp only [itemHead, bind_eq_ok, Context.require_eq_ok, pure_eq_ok]
  exact ⟨_, hkind, x, hx, s, span_of_isSpan hs, rfl⟩

theorem statement_of_isStatement {s : Statement} (h : IsStatement c.file v s) : statement c v = .ok s := by
  obtain ⟨kind, span⟩ := s
  obtain ⟨hkind, hspan, hfields⟩ := h
  refine bind_eq_ok.2 ⟨_, itemHead_of_hasKind hkind hspan, ?_⟩
  cases kind with
  | assign destination source =>
    obtain ⟨⟨x, hx, hdestination⟩, ⟨y, hy, hsource⟩⟩ := hfields
    simp only [StatementKind.name, Value.string?_ofString, bind_eq_ok, Context.require_eq_ok, pure_eq_ok]
    exact ⟨x, hx, destination, place_of_isPlace hdestination, y, hy, source, rvalue_of_isRvalue hsource, rfl⟩
  | storageLive slot | storageDead slot =>
    have hslot : Has v "local" IsInt slot := hfields
    simp only [StatementKind.name, Value.string?_ofString, bind_eq_ok, pure_eq_ok]
    exact ⟨slot, hslot.requireInt, rfl⟩
  | nop => simp only [StatementKind.name, Value.string?_ofString, pure_eq_ok]

theorem guard_of_isGuard {g : Guard} (h : IsGuard v g) : guard c v = .ok g := by
  cases g with
  | overflow op left right =>
    obtain ⟨hkind, hbinary⟩ := h
    refine bind_eq_ok.2 ⟨_, hkind.require, ?_⟩
    simp only [Value.string?_ofString, binary_of_hasBinary hbinary]
    rfl
  | boundsCheck length index =>
    obtain ⟨hkind, ⟨x, hx, hlength⟩, ⟨y, hy, hindex⟩⟩ := h
    refine bind_eq_ok.2 ⟨_, hkind.require, ?_⟩
    simp only [Value.string?_ofString, bind_eq_ok, Context.require_eq_ok, pure_eq_ok]
    exact ⟨x, hx, length, operand_of_isOperand hlength, y, hy, index, operand_of_isOperand hindex, rfl⟩
  | divisionByZero o =>
    obtain ⟨hkind, x, hx, ho⟩ := h
    refine bind_eq_ok.2 ⟨_, hkind.require, ?_⟩
    simp only [Value.string?_ofString, bind_eq_ok, Context.require_eq_ok, pure_eq_ok]
    exact ⟨x, hx, o, operand_of_isOperand ho, rfl⟩

theorem IsPlace.ne_null {p : Place} (h : IsPlace v p) : v ≠ .null := by
  obtain ⟨⟨x, hx, -⟩, -⟩ := h
  exact ne_null_of_get? hx

theorem IsOperand.ne_null {o : Operand} (h : IsOperand v o) : v ≠ .null := by
  cases o <;> exact ne_null_of_get? h.1

theorem terminator_of_isTerminator {t : Terminator} (h : IsTerminator c.file v t) : terminator c v = .ok t := by
  obtain ⟨kind, span⟩ := t
  obtain ⟨hkind, hspan, hfields⟩ := h
  refine bind_eq_ok.2 ⟨_, itemHead_of_hasKind hkind hspan, ?_⟩
  cases kind with
  | goto target =>
    have htarget : Has v "target" IsInt target := hfields
    simp only [TerminatorKind.name, Value.string?_ofString, bind_eq_ok, pure_eq_ok]
    exact ⟨target, htarget.requireInt, rfl⟩
  | switchInt discriminant targets otherwise =>
    obtain ⟨⟨x, hx, hdiscriminant⟩, htargets, hotherwise⟩ := hfields
    have hcase : ∀ x target, IsSwitchCase x target → convert (switchCase x) = .ok target := by
      rintro _ target rfl
      rfl
    obtain ⟨xs, hxs, hcases⟩ := htargets.load hcase
    simp only [TerminatorKind.name, Value.string?_ofString, bind_eq_ok, Context.require_eq_ok, pure_eq_ok]
    exact ⟨xs, hxs, targets, hcases, x, hx, discriminant, operand_of_isOperand hdiscriminant, otherwise,
      hotherwise.intField?, rfl⟩
  | call callee args destination target =>
    obtain ⟨⟨x, hx, rfl⟩, hargs, hdestination, htarget⟩ := hfields
    have hplace := hdestination.load (fun _ _ => IsPlace.ne_null) fun _ _ => place_of_isPlace (c := c)
    simp only [TerminatorKind.name, Value.string?_ofString, bind_eq_ok, Context.require_eq_ok, pure_eq_ok]
    exact ⟨_, hx, args, arguments_of_hasArguments hargs, destination, hplace, target, htarget.intField?,
      by rw [Value.display_string]⟩
  | assert protects condition expected target =>
    obtain ⟨⟨x, hx, hguard⟩, hcondition, hexpected, htarget⟩ := hfields
    have hoperand := hcondition.load (fun _ _ => IsOperand.ne_null) fun _ _ => operand_of_isOperand (c := c)
    simp only [TerminatorKind.name, Value.string?_ofString, bind_eq_ok, Context.require_eq_ok, pure_eq_ok,
      hexpected.boolField]
    exact ⟨x, hx, protects, guard_of_isGuard hguard, condition, hoperand, target, htarget.intField?, rfl⟩
  | ret | unreachable => simp only [TerminatorKind.name, Value.string?_ofString, pure_eq_ok]

end Instructions

/-! ### Functions and programs -/

section Functions

variable {c : Context} {v : Value}

theorem block_of_isBlock {b : Block} (h : IsBlock c.file v b) : block c v = .ok b := by
  obtain ⟨hid, hstatements, hterminator⟩ := h
  have hblockId : blockId c v = .ok b.id := hid.requireInt
  obtain ⟨xs, hxs, hload⟩ := hstatements.load fun _ _ => statement_of_isStatement (c := c.inBlock b.id)
  have hnull : ∀ x t, IsTerminator c.file x t → x ≠ .null := fun _ _ ht => ne_null_of_get? ht.1
  have hend := hterminator.load hnull fun _ _ => terminator_of_isTerminator (c := c.inBlock b.id)
  simp only [block, bind_eq_ok, pure_eq_ok]
  exact ⟨b.id, hblockId, xs, hxs, b.statements, hload, b.terminator, hend, rfl⟩

theorem functionSpan_of_isFunction {body : Body} (h : IsFunction c.file v body) : functionSpan c v = .ok body.span := by
  obtain ⟨-, hspan, -⟩ := h
  rw [functionSpan_eq_ok]
  obtain hnone | ⟨x, hx, hs⟩ := hspan
  · exact .inl hnone
  · have hnull : x ≠ .null := by
      rintro rfl
      exact absurd hs.object (by simp [Value.shape])
    exact .inr ⟨x, given?_eq_some_iff.2 ⟨hx, hnull⟩, span_of_isSpan hs⟩

theorem function_of_isFunction {file : Value} {body : Body} (h : IsFunction file v body)
    (hclosed : Block.Closed body.blocks) : function file v = .ok body := by
  have hspan := functionSpan_of_isFunction (c := functionContext file (.string body.name)) h
  obtain ⟨⟨name, hname, rfl⟩, -, xs, bs, hblocks, hbs, hperm⟩ := h
  have hconverts : Converts (functionContext file (.string body.name)) xs bs := hbs.imp fun _ _ => block_of_isBlock
  have hgraph : graph (functionContext file (.string body.name)) (.array xs) = .ok body.toGraph :=
    graph_eq_ok.2 ⟨xs, bs, rfl, hconverts, hperm, hclosed.of_perm hperm⟩
  exact function_eq_ok.2 ⟨_, _, hname, hblocks, (Value.display_string _).symm, hspan, hgraph⟩

theorem mapM_function {file : Value} {xs : List Value} {bodies : List Body}
    (h : List.Forall₂ (IsFunction file) xs bodies) (hclosed : ∀ body ∈ bodies, Block.Closed body.blocks) :
    xs.mapM (function file) = .ok bodies := by
  have hboth := ((List.forall₂_and_left _ _).2 ⟨hclosed, h.flip⟩).flip
  exact mapM_eq_ok.2 (hboth.imp fun _ _ hbody => function_of_isFunction hbody.2 hbody.1)

/-- Every program has a dump, and if its successors are all there then any of its dumps loads to it. -/
theorem program_of_isProgram {p : Program} (hclosed : ∀ body ∈ p.functions, Block.Closed body.blocks) :
    IsProgram p.toValue p ∧ ∀ v, IsProgram v p → program v = .ok p := by
  refine ⟨isProgram_toValue p, ?_⟩
  rintro v ⟨hobject, hfile, hfunctions⟩
  have hname : ((v.get? "file").map Value.display).getD {} = p.file := by
    obtain hv | ⟨hv, hempty⟩ := hfile
    · rw [hv, Option.map_some, Option.getD_some, Value.display_string]
    · rw [hv, Option.map_none, Option.getD_none]
      exact (Value.string.inj hempty).symm
  rw [program_eq_ok]
  obtain ⟨hv, hnone⟩ | ⟨xs, hv, hxs⟩ := hfunctions
  · exact ⟨hobject, hname, [], by rw [hv]; rfl, by rw [hnone]; rfl⟩
  · exact ⟨hobject, hname, xs, by rw [hv]; rfl, mapM_function hxs hclosed⟩

end Functions

/-- A function of two blocks, the later one first: a call that names only what it has to, and the assignment of an
inline call under the given kind. -/
def callDump (kind : String) : Value :=
  let inline := .record [("kind", .ofString kind), ("callee", .ofString "g"), ("args", .null)]
  let place := .record [("local", .int 1), ("projection", .array [.record [("kind", .ofString "deref")]])]
  let assign := .record [("kind", .ofString "Assign"), ("span", .record []), ("place", place), ("rvalue", inline)]
  let call := .record [("kind", .ofString "Call"), ("span", .record [("line", .int 4)]), ("callee", .ofString "h"),
    ("destination", .null), ("target", .int 0)]
  .record [("functions", .array [.record [("name", .ofString "f"), ("span", .null),
    ("blocks", .array [
      .record [("id", .int 7), ("terminator", call)],
      .record [("id", .int 0), ("statements", .array [assign]), ("terminator", .null)]])]])]

theorem program_of_isProgram_callDump :
    ∃ p, IsProgram (callDump "Call") p ∧ program (callDump "Call") = .ok p ∧ p.functions.map (·.ids) = [[0, 7]] := by
  let assign : Statement := ⟨.assign ⟨1, [.deref]⟩ (.call "g" []), .empty⟩
  let call : Terminator := ⟨.call "h" [] none (some 0), { line := 4 }⟩
  let body : Body := ⟨⟨[⟨0, [assign], none⟩, ⟨7, [], some call⟩], by simp⟩, "f", .empty⟩
  have hempty : IsSpan (.ofString "") (.record []) .empty :=
    ⟨rfl, .inr ⟨rfl, rfl⟩, .inr ⟨rfl, rfl⟩, .inr ⟨rfl, rfl⟩, .inr ⟨rfl, rfl⟩, .inr ⟨rfl, rfl⟩⟩
  have hline : IsSpan (.ofString "") (.record [("line", .int 4)]) call.span :=
    ⟨rfl, .inr ⟨rfl, rfl⟩, .inr ⟨rfl, rfl⟩, .inr ⟨rfl, rfl⟩, .inl rfl, .inr ⟨rfl, rfl⟩⟩
  have hplace : IsPlace (.record [("local", .int 1), ("projection", .array [.record [("kind", .ofString "deref")]])])
      ⟨1, [.deref]⟩ := ⟨⟨_, rfl, rfl⟩, .inr ⟨_, rfl, .cons rfl .nil⟩⟩
  have hdump : IsProgram (callDump "Call") ⟨"", [body]⟩ := by
    have hperm : body.blocks.Perm [⟨7, [], some call⟩, ⟨0, [assign], none⟩] := .swap _ _ []
    refine ⟨rfl, .inr ⟨rfl, rfl⟩, .inr ⟨_, rfl, .cons ?_ .nil⟩⟩
    refine ⟨⟨_, rfl, rfl⟩, .inl ⟨rfl, rfl⟩, _, _, rfl, ?_, hperm⟩
    refine .cons ⟨⟨_, rfl, rfl⟩, .inl ⟨rfl, rfl⟩, ⟨_, rfl, rfl, ⟨_, rfl, hline⟩, ?_⟩⟩
      (.cons ⟨⟨_, rfl, rfl⟩, .inr ⟨_, rfl, .cons ⟨rfl, ⟨_, rfl, hempty⟩, ?_⟩ .nil⟩, rfl⟩ .nil)
    · exact ⟨⟨_, rfl, rfl⟩, .inr (.inl ⟨rfl, rfl⟩), rfl, ⟨_, rfl, rfl⟩⟩
    · exact ⟨⟨_, rfl, hplace⟩, ⟨_, rfl, rfl, ⟨_, rfl, rfl⟩, .inl ⟨rfl, rfl⟩⟩⟩
  have hclosed : ∀ b ∈ [body], Block.Closed b.blocks := by
    simp [Block.Closed, body, call, Block.successors, TerminatorKind.successors]
  exact ⟨_, hdump, (program_of_isProgram hclosed).2 _ hdump, rfl⟩

/-- An inline call goes under the kind of a call. Under the kind `CallExpr` it is refused. -/
theorem program_callDump_callExpr :
    program (callDump "CallExpr") =
      .error (.malformed ⟨.unknownRvalue (.ofString "CallExpr"), ⟨.ofString "f", some 0⟩⟩) := by
  rfl

end ContractLint.Dump
