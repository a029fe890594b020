import ContractLint.Proofs.Analysis.Success
import ContractLint.Proofs.Dump.Blocks

/-! The constants of a dump and those of the program that it loads to. The loader takes the path of a constant as it
is, so whether the program can be analysed shows in the dump. -/

namespace ContractLint.Dump

open Outcome

/-! ### Where operands stand in a dump -/

/-- The values of some fields, as far as they are there. -/
def fieldsUnder (v : Value) (keys : List String) : List Value := keys.filterMap v.get?

/-- The elements of an optional field. -/
def elementsUnder (v : Value) (key : String) : List Value := (((v.get? key).getD (.array [])).parts?).getD []

def argumentValues (v : Value) : List Value :=
  match v.get? "args" with
  | some args => if args.truthy then args.parts?.getD [] else []
  | none => []

def rvalueOperands (v : Value) : List Value :=
  match kind? v with
  | some "Use" => fieldsUnder v ["operand"]
  | some "BinaryOp" => fieldsUnder v ["left", "right"]
  | some "CheckedBinaryOp" => fieldsUnder v ["left", "right"]
  | some "Call" => argumentValues v
  | _ => []

def statementOperands (v : Value) : List Value :=
  match kind? v with
  | some "Assign" => (fieldsUnder v ["rvalue"]).flatMap rvalueOperands
  | _ => []

def guardOperands (v : Value) : List Value :=
  match kind? v with
  | some "Overflow" => fieldsUnder v ["left", "right"]
  | some "BoundsCheck" => fieldsUnder v ["len", "index"]
  | some "DivisionByZero" => fieldsUnder v ["operand"]
  | _ => []

def terminatorOperands (v : Value) : List Value :=
  match kind? v with
  | some "SwitchInt" => fieldsUnder v ["discr"]
  | some "Call" => argumentValues v
  | some "Assert" => (v.given? "cond").toList ++ (fieldsUnder v ["msg"]).flatMap guardOperands
  | _ => []

def blockOperands (v : Value) : List Value :=
  (elementsUnder v "statements").flatMap statementOperands ++
    (v.given? "terminator").toList.flatMap terminatorOperands

def functionOperands (v : Value) : List Value := (elementsUnder v "blocks").flatMap blockOperands

/-- The operands in the instructions of a dump. -/
def programOperands (v : Value) : List Value := (elementsUnder v "functions").flatMap functionOperands

/-- The path of an operand that is a constant. -/
def constantPath? (v : Value) : Option Value :=
  match kind? v with
  | some "constant" => some ((v.get? "path").getD .null)
  | _ => none

/-- The paths of the constants in a dump. -/
def constantPaths (v : Value) : List Value := (programOperands v).filterMap constantPath?

/-! ### What they load to -/

section Instructions

variable {c : Context} {v : Value}

theorem fieldsUnder_nil (v : Value) : fieldsUnder v [] = [] := rfl

theorem fieldsUnder_of_require {what : Text} {key : String} {keys : List String} {x : Value}
    (h : c.require what v key = .ok x) : fieldsUnder v (key :: keys) = x :: fieldsUnder v keys := by
  rw [fieldsUnder, List.filterMap_cons, Context.require_eq_ok.1 h]
  rfl

theorem constantPath?_operand {o : Operand} (h : operand c v = .ok o) : o.constantPath? = constantPath? v := by
  obtain ⟨kind, hk, h⟩ := bind_eq_ok.1 h
  have hkind := kind?_of_get? (Context.require_eq_ok.1 hk)
  split at h <;> simp only [bind_eq_ok, pure_eq_ok, Context.fail_ne_ok] at h
  case h_1 hs =>
    obtain ⟨_, _, p, _, rfl⟩ := h
    rw [constantPath?, hkind, hs]
    rfl
  case h_2 hs =>
    obtain ⟨_, _, p, _, rfl⟩ := h
    rw [constantPath?, hkind, hs]
    rfl
  case h_3 hs =>
    rw [constantPath?, hkind, hs, ← h]
    rfl

/-- The operands `os` are loaded from the values `xs`, one from each. -/
def LoadedFrom (c : Context) (xs : List Value) (os : List Operand) : Prop :=
  List.Forall₂ (fun x o => operand c x = .ok o) xs os

theorem LoadedFrom.constantPaths {xs : List Value} {os : List Operand} (h : LoadedFrom c xs os) :
    os.filterMap Operand.constantPath? = xs.filterMap constantPath? := by
  induction h with
  | nil => rfl
  | cons ho _ ih => rw [List.filterMap_cons, List.filterMap_cons, constantPath?_operand ho, ih]

theorem LoadedFrom.field {what : Text} {key : String} {keys : List String} {x : Value} {o : Operand} {os : List Operand}
    (hx : c.require what v key = .ok x) (ho : operand c x = .ok o) (h : LoadedFrom c (fieldsUnder v keys) os) :
    LoadedFrom c (fieldsUnder v (key :: keys)) (o :: os) := by
  rw [fieldsUnder_of_require hx]
  exact .cons ho h

theorem loadedFrom_arguments {os : List Operand} (h : arguments c v = .ok os) :
    LoadedFrom c (argumentValues v) os := by
  unfold arguments at h
  unfold argumentValues
  split at h
  · next hn =>
    obtain rfl := pure_eq_ok.1 h
    rw [hn]
    exact .nil
  · next args hs =>
    rw [hs]
    split_ifs at h with ht
    · obtain ⟨xs, hx, h⟩ := bind_eq_ok.1 h
      simp only [if_pos ht, Value.parts_eq_ok.1 (convert_eq_ok.1 hx), Option.getD_some]
      exact mapM_eq_ok.1 h
    · obtain rfl := pure_eq_ok.1 h
      simp only [if_neg ht]
      exact .nil

theorem loadedFrom_binary {kind : Text} {op : BinOp} {left right : Operand}
    (h : binary c kind v = .ok (op, left, right)) : LoadedFrom c (fieldsUnder v ["left", "right"]) [left, right] := by
  simp only [binary, bind_eq_ok, pure_eq_ok, Prod.mk.injEq] at h
  obtain ⟨_, _, _, _, x, hx, l, hl, y, hy, r, hr, -, rfl, rfl⟩ := h
  exact .field hx hl (.field hy hr .nil)

theorem loadedFrom_rvalue {r : Rvalue} (h : rvalue c v = .ok r) : LoadedFrom c (rvalueOperands v) r.operands := by
  obtain ⟨kind, hk, h⟩ := bind_eq_ok.1 h
  have hkind := kind?_of_get? (Context.require_eq_ok.1 hk)
  split at h <;> simp only [bind_eq_ok, pure_eq_ok, Context.fail_ne_ok] at h
  case h_1 hs =>
    obtain ⟨x, hx, o, ho, rfl⟩ := h
    rw [rvalueOperands, hkind, hs]
    exact .field hx ho .nil
  case h_2 hs =>
    obtain ⟨⟨op, left, right⟩, hb, rfl⟩ := h
    rw [rvalueOperands, hkind, hs]
    exact loadedFrom_binary hb
  case h_3 hs =>
    obtain ⟨⟨op, left, right⟩, hb, rfl⟩ := h
    rw [rvalueOperands, hkind, hs]
    exact loadedFrom_binary hb
  case h_4 hs =>
    obtain ⟨_, _, p, _, rfl⟩ := h
    simp only [rvalueOperands, hkind, hs]
    exact .nil
  case h_5 hs =>
    obtain ⟨_, _, args, ha, rfl⟩ := h
    rw [rvalueOperands, hkind, hs]
    exact loadedFrom_arguments ha

theorem get?_of_itemHead {what : Text} {kind : Value} {s : Span} (h : itemHead c what v = .ok (kind, s)) :
    v.get? "kind" = some kind := by
  simp only [itemHead, bind_eq_ok, pure_eq_ok, Prod.mk.injEq] at h
  obtain ⟨_, hk, _, _, _, _, rfl, -⟩ := h
  exact Context.require_eq_ok.1 hk

theorem loadedFrom_statement {s : Statement} (h : statement c v = .ok s) :
    LoadedFrom c (statementOperands v) (Item.statement s).operands := by
  obtain ⟨⟨kind, sp⟩, hk, h⟩ := bind_eq_ok.1 h
  have hkind := kind?_of_get? (get?_of_itemHead hk)
  dsimp only at h
  split at h <;> simp only [bind_eq_ok, pure_eq_ok, Context.fail_ne_ok] at h
  case h_1 hs =>
    obtain ⟨_, _, _, _, x, hx, r, hr, rfl⟩ := h
    simp only [statementOperands, hkind, hs, fieldsUnder_of_require hx, fieldsUnder_nil, List.flatMap_singleton]
    exact loadedFrom_rvalue hr
  case h_2 hs =>
    obtain ⟨_, _, rfl⟩ := h
    simp only [statementOperands, hkind, hs]
    exact .nil
  case h_3 hs =>
    obtain ⟨_, _, rfl⟩ := h
    simp only [statementOperands, hkind, hs]
    exact .nil
  case h_4 hs =>
    obtain rfl := h
    simp only [statementOperands, hkind, hs]
    exact .nil

theorem loadedFrom_guard {g : Guard} (h : guard c v = .ok g) : LoadedFrom c (guardOperands v) g.operands := by
  obtain ⟨kind, hk, h⟩ := bind_eq_ok.1 h
  have hkind := kind?_of_get? (Context.require_eq_ok.1 hk)
  split at h <;> simp only [bind_eq_ok, pure_eq_ok, Context.fail_ne_ok] at h
  case h_1 hs =>
    obtain ⟨⟨op, left, right⟩, hb, rfl⟩ := h
    rw [guardOperands, hkind, hs]
    exact loadedFrom_binary hb
  case h_2 hs =>
    obtain ⟨x, hx, l, hl, y, hy, i, hi, rfl⟩ := h
    rw [guardOperands, hkind, hs]
    exact .field hx hl (.field hy hi .nil)
  case h_3 hs =>
    obtain ⟨x, hx, o, ho, rfl⟩ := h
    rw [guardOperands, hkind, hs]
    exact .field hx ho .nil

theorem loadedFrom_terminator {t : Terminator} (h : terminator c v = .ok t) :
    LoadedFrom c (terminatorOperands v) (Item.terminator t).operands := by
  obtain ⟨⟨kind, sp⟩, hk, h⟩ := bind_eq_ok.1 h
  have hkind := kind?_of_get? (get?_of_itemHead hk)
  dsimp only at h
  split at h <;> simp only [bind_eq_ok, pure_eq_ok, Context.fail_ne_ok] at h
  case h_1 hs =>
    obtain ⟨_, _, rfl⟩ := h
    simp only [terminatorOperands, hkind, hs]
    exact .nil
  case h_2 hs =>
    obtain ⟨_, _, _, _, x, hx, o, ho, _, _, rfl⟩ := h
    rw [terminatorOperands, hkind, hs]
    exact .field hx ho .nil
  case h_3 hs =>
    obtain ⟨_, _, args, ha, _, _, _, _, rfl⟩ := h
    rw [terminatorOperands, hkind, hs]
    exact loadedFrom_arguments ha
  case h_4 hs =>
    obtain ⟨x, hx, g, hg, condition, ho, _, _, rfl⟩ := h
    simp only [terminatorOperands, hkind, hs, fieldsUnder_of_require hx, fieldsUnder_nil, List.flatMap_singleton]
    exact List.rel_append (mapM_option_eq_ok.1 ho) (loadedFrom_guard hg)
  case h_5 hs =>
    obtain rfl := h
    simp only [terminatorOperands, hkind, hs]
    exact .nil
  case h_6 hs =>
    obtain rfl := h
    simp only [terminatorOperands, hkind, hs]
    exact .nil

theorem loadedFrom_block {b : Block} (h : block c v = .ok b) :
    LoadedFrom (c.inBlock b.id) (blockOperands v) (b.items.flatMap Item.operands) := by
  simp only [block, bind_eq_ok, pure_eq_ok] at h
  obtain ⟨id, _, xs, hx, statements, hs, t, ht, rfl⟩ := h
  rw [blockOperands, elementsUnder, listField_eq_ok.1 hx, Option.getD_some, Block.items, List.flatMap_append,
    List.flatMap_map, List.flatMap_map]
  refine List.rel_append ?_ ?_
  · exact List.rel_flatMap (mapM_eq_ok.1 hs) fun _ _ h => loadedFrom_statement h
  · exact List.rel_flatMap (mapM_option_eq_ok.1 ht) fun _ _ h => loadedFrom_terminator h

theorem constantPaths_block {b : Block} (h : block c v = .ok b) :
    b.items.flatMap Item.constantPaths = (blockOperands v).filterMap constantPath? := by
  rw [← (loadedFrom_block h).constantPaths, List.filterMap_flatMap]
  rfl

end Instructions

/-! ### Functions and programs -/

section Functions

variable {c : Context} {v : Value}

theorem constantPaths_function {file : Value} {body : Body} (h : function file v = .ok body) :
    body.constantPaths.Perm ((functionOperands v).filterMap constantPath?) := by
  obtain ⟨_, blocks, -, hv, -, -, hg⟩ := function_eq_ok.1 h
  obtain ⟨xs, bs, hx, hbs, hperm, -⟩ := graph_eq_ok.1 hg
  have hxs : elementsUnder v "blocks" = xs := by
    rw [elementsUnder, hv, Option.getD_some, hx, Option.getD_some]
  rw [functionOperands, hxs, List.filterMap_flatMap, Body.constantPaths, Graph.items, List.flatMap_assoc]
  refine (hperm.flatMap_right _).trans ?_
  exact flatMap_perm_of_forall₂ hbs fun _ _ hb => .of_eq (constantPaths_block hb)

/-- The constants of a program are those of its dump. They come in the order of the blocks, which need not be that
of the dump. -/
theorem constantPaths_program {p : Program} (h : program v = .ok p) :
    (p.functions.flatMap Body.constantPaths).Perm (constantPaths v) := by
  obtain ⟨-, -, xs, hx, hf⟩ := program_eq_ok.1 h
  have hxs : elementsUnder v "functions" = xs := by
    rw [elementsUnder, hx]
    rfl
  rw [constantPaths, programOperands, hxs, List.filterMap_flatMap]
  exact flatMap_perm_of_forall₂ (mapM_eq_ok.1 hf) fun _ _ hb => constantPaths_function hb

/-- A program that was loaded can be analysed with any tables, unless a detector looks at the paths of constants and
one of them is given, in the dump, by something that is no path. -/
theorem run_program_iff {v : Value} {p : Program} (loaded : program v = .ok p) (c : Checker) :
    (∃ results, c.run p.functions = .ok results) ↔
      (∀ f : FlagKind, f.detector ∉ c.enabled) ∨ ∀ path ∈ constantPaths v, path.truthy = true → path.IsPath := by
  rw [c.exists_run_ok]
  simp only [← (constantPaths_program loaded).mem_iff, List.mem_flatMap]
  refine or_congr_right ⟨?_, ?_⟩
  · rintro h path ⟨body, hb, hp⟩
    exact h body hb path hp
  · intro h body hb path hp
    exact h path ⟨body, hb, hp⟩

end Functions

/-- The dump of one function that assigns a constant with the given path. -/
def constantDump (path : Value) : Value :=
  let rvalue := .record [("kind", .ofString "Use"),
    ("operand", .record [("kind", .ofString "constant"), ("path", path)])]
  let assign := .record [("kind", .ofString "Assign"), ("span", .record []), ("place", .record [("local", .int 1)]),
    ("rvalue", rvalue)]
  .record [("functions", .array [.record [("name", .ofString "f"),
    ("blocks", .array [.record [("id", .int 0), ("statements", .array [assign])]])]])]

/-- A path in pieces is one that can be analysed. -/
theorem run_program_iff_pieces :
    ∃ p, program (constantDump (.array [.ofString "rand", .ofString "::random"])) = .ok p ∧
      ∃ results, ({} : Checker).run p.functions = .ok results := by
  obtain ⟨p, hp⟩ : ∃ p, program (constantDump (.array [.ofString "rand", .ofString "::random"])) = .ok p := ⟨_, rfl⟩
  have hpaths : constantPaths (constantDump (.array [.ofString "rand", .ofString "::random"])) =
      [.array [.ofString "rand", .ofString "::random"]] := rfl
  refine ⟨p, hp, (run_program_iff hp {}).2 (.inr fun path hmem _ => ?_)⟩
  rw [hpaths, List.mem_singleton] at hmem
  subst hmem
  exact ⟨by simp [Value.ofString], by decide +kernel⟩

/-- The loader accepts a number for a path, and the analysis then gives no results. -/
theorem run_program_number :
    ∃ p, program (constantDump (.int 5)) = .ok p ∧ ({} : Checker).run p.functions = .error (.noLength .int) :=
  ⟨_, rfl, rfl⟩

end ContractLint.Dump
