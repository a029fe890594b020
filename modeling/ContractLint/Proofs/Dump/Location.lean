import ContractLint.Proofs.Dump.Blocks

/-! Where a function is malformed. What is reported of a function names it and the block at hand. The loader knows of a
block only from its id on, so the first element of the list that does not convert, or that repeats an id, is named by
the integer that its id stands for, if there is one. If there is no such element then a successor is missing, and it is
reported of the first block that has one. -/

namespace ContractLint.Dump

open Outcome

/-! ### Failures at a location -/

/-- Whatever is malformed is reported at the location. -/
def FailsAt {α : Type} (location : Location) (r : Except Failure α) : Prop :=
  ∀ e, r = .error (.malformed e) → e.location = location

namespace FailsAt

variable {α β : Type} {location : Location}

theorem ok (a : α) : FailsAt location (.ok a) := by
  intro e h
  cases h

theorem pure (a : α) : FailsAt location (Pure.pure a) := ok a

theorem conversion (r : Except ConversionError α) : FailsAt location (convert r) := by
  intro e h
  obtain ⟨_, _, h⟩ := convert_eq_error.1 h
  cases h

theorem bind {x : Except Failure α} {f : α → Except Failure β} (hx : FailsAt location x)
    (hf : ∀ a, FailsAt location (f a)) : FailsAt location (x >>= f) := by
  intro e h
  rcases bind_eq_error.1 h with h | ⟨a, -, h⟩
  · exact hx e h
  · exact hf a e h

/-- What follows a value that is taken only as part of the result. -/
theorem map {x : Except Failure α} (hx : FailsAt location x) (f : α → β) :
    FailsAt location (x >>= fun a => Pure.pure (f a)) :=
  hx.bind fun _ => .pure _

theorem mapM {f : Value → Except Failure α} (hf : ∀ x, FailsAt location (f x)) (xs : List Value) :
    FailsAt location (xs.mapM f) := by
  intro e h
  obtain ⟨_, x, _, _, _, hx⟩ := mapM_eq_error.1 h
  exact hf x e hx

theorem mapM_option {f : Value → Except Failure α} (hf : ∀ x, FailsAt location (f x)) (x : Option Value) :
    FailsAt location (x.mapM f) := by
  intro e h
  obtain ⟨x, _, hx⟩ := mapM_option_eq_error.1 h
  exact hf x e hx

end FailsAt

/-! ### Instructions -/

section Instructions

variable {c : Context} {v : Value}

theorem failsAt_fail {α : Type} {problem : Problem} : FailsAt c.location (c.fail problem : Except Failure α) := by
  intro e h
  cases h
  rfl

theorem failsAt_require {what : Text} {key : String} : FailsAt c.location (c.require what v key) := by
  intro e h
  obtain ⟨problem, he⟩ := Context.require_eq_error h
  cases he
  rfl

theorem failsAt_requireInt {what : Text} {key : String} : FailsAt c.location (c.requireInt what v key) :=
  failsAt_require.bind fun _ => .conversion _

theorem failsAt_span : FailsAt c.location (span c v) := by
  unfold span
  split
  · exact failsAt_fail
  · split
    · exact .ok _
    · split
      · exact failsAt_fail
      · intro e h
        cases h
  · exact failsAt_fail

theorem failsAt_projection : FailsAt c.location (projection c v) := by
  refine failsAt_require.bind fun kind => ?_
  split
  · exact .pure _
  · exact failsAt_requireInt.map _
  · exact failsAt_requireInt.map _
  · exact failsAt_requireInt.map _
  · exact failsAt_fail

theorem failsAt_place : FailsAt c.location (place c v) :=
  failsAt_require.bind fun _ => (FailsAt.conversion _).bind fun steps =>
    (FailsAt.mapM (fun _ => failsAt_projection) steps).bind fun _ => (FailsAt.conversion _).map _

theorem failsAt_operand : FailsAt c.location (operand c v) := by
  refine failsAt_require.bind fun kind => ?_
  split
  · exact failsAt_require.bind fun _ => failsAt_place.map _
  · exact failsAt_require.bind fun _ => failsAt_place.map _
  · exact .pure _
  · exact failsAt_fail

theorem failsAt_arguments : FailsAt c.location (arguments c v) := by
  unfold arguments
  split
  · exact .pure _
  · split
    · exact (FailsAt.conversion _).bind fun args => .mapM (fun _ => failsAt_operand) args
    · exact .pure _

theorem failsAt_binOp : FailsAt c.location (binOp c v) := by
  unfold binOp
  split
  · exact .ok _
  · exact failsAt_fail

theorem failsAt_binary {kind : Text} : FailsAt c.location (binary c kind v) :=
  failsAt_require.bind fun _ => failsAt_binOp.bind fun _ => failsAt_require.bind fun _ =>
    failsAt_operand.bind fun _ => failsAt_require.bind fun _ => failsAt_operand.map _

theorem failsAt_rvalue : FailsAt c.location (rvalue c v) := by
  refine failsAt_require.bind fun kind => ?_
  split
  · exact failsAt_require.bind fun _ => failsAt_operand.map _
  · exact failsAt_binary.map _
  · exact failsAt_binary.map _
  · exact failsAt_require.bind fun _ => failsAt_place.map _
  · exact failsAt_require.bind fun _ => failsAt_arguments.map _
  · exact failsAt_fail

theorem failsAt_itemHead {what : Text} : FailsAt c.location (itemHead c what v) :=
  failsAt_require.bind fun _ => failsAt_require.bind fun _ => failsAt_span.map _

theorem failsAt_statement : FailsAt c.location (statement c v) := by
  refine failsAt_itemHead.bind fun head => ?_
  obtain ⟨kind, span⟩ := head
  dsimp only
  split
  · exact failsAt_require.bind fun _ => failsAt_place.bind fun _ => failsAt_require.bind fun _ =>
      failsAt_rvalue.map _
  · exact failsAt_requireInt.map _
  · exact failsAt_requireInt.map _
  · exact .pure _
  · exact failsAt_fail

theorem failsAt_guard : FailsAt c.location (guard c v) := by
  refine failsAt_require.bind fun kind => ?_
  split
  · exact failsAt_binary.map _
  · exact failsAt_require.bind fun _ => failsAt_operand.bind fun _ => failsAt_require.bind fun _ =>
      failsAt_operand.map _
  · exact failsAt_require.bind fun _ => failsAt_operand.map _
  · exact failsAt_fail

theorem failsAt_intField? {key : String} : FailsAt c.location (intField? v key) :=
  .mapM_option (fun _ => .conversion _) _

theorem failsAt_terminator : FailsAt c.location (terminator c v) := by
  refine failsAt_itemHead.bind fun head => ?_
  obtain ⟨kind, span⟩ := head
  dsimp only
  split
  · exact failsAt_requireInt.map _
  · exact (FailsAt.conversion _).bind fun targets => (FailsAt.mapM (fun _ => .conversion _) targets).bind fun _ =>
      failsAt_require.bind fun _ => failsAt_operand.bind fun _ => failsAt_intField?.map _
  · exact failsAt_require.bind fun _ => failsAt_arguments.bind fun _ =>
      (FailsAt.mapM_option (fun _ => failsAt_place) _).bind fun _ => failsAt_intField?.map _
  · exact failsAt_require.bind fun _ => failsAt_guard.bind fun _ =>
      (FailsAt.mapM_option (fun _ => failsAt_operand) _).bind fun _ => failsAt_intField?.map _
  · exact .pure _
  · exact .pure _
  · exact failsAt_fail

end Instructions

/-! ### Blocks -/

/-- The integer that the id of an element stands for, if the element has an id that stands for one. -/
def idOf? (v : Value) : Option Int := (v.get? "id").bind fun id => id.toInt.toOption

section Blocks

variable {c : Context} {v : Value}

theorem idOf?_eq_some_iff {n : Int} : idOf? v = some n ↔ ∃ id, v.get? "id" = some id ∧ id.toInt = .ok n := by
  rw [idOf?, Option.bind_eq_some_iff]
  refine exists_congr fun id => and_congr_right fun _ => ?_
  cases id.toInt <;> simp [Except.toOption]

/-- An element has no integer for an id if it is no object, has no id, or has one that stands for none. -/
theorem idOf?_eq_none_iff :
    idOf? v = none ↔ v.shape ≠ .object ∨ v.get? "id" = none ∨ ∃ id e, v.get? "id" = some id ∧ id.toInt = .error e := by
  have hshape : v.shape ≠ .object → v.get? "id" = none := by
    cases v <;> simp [Value.shape, Value.get?]
  cases hid : v.get? "id" with
  | none => simp [idOf?, hid]
  | some id =>
    rw [hid] at hshape
    have hobject : ¬ v.shape ≠ .object := fun h => by cases hshape h
    cases hint : id.toInt <;> simp [idOf?, hid, hint, Except.toOption, hobject]

theorem toOption_blockId : (blockId c v).toOption = idOf? v := by
  ext n
  have htoOption : (blockId c v).toOption = some n ↔ blockId c v = .ok n := by
    cases blockId c v <;> simp [Except.toOption]
  rw [htoOption, idOf?_eq_some_iff, blockId, Context.requireInt, bind_eq_ok]
  simp only [Context.require_eq_ok, convert_eq_ok]

theorem idOf?_of_block {b : Block} (h : block c v = .ok b) : idOf? v = some b.id := by
  simp only [block, bind_eq_ok, pure_eq_ok] at h
  obtain ⟨id, hid, _, _, _, _, _, _, rfl⟩ := h
  rw [← toOption_blockId (c := c), hid]
  rfl

/-- What is wrong with a block is reported under its id, from the moment on that it is known. -/
theorem failsAt_block : FailsAt ⟨c.function, idOf? v⟩ (block c v) := by
  intro e h
  rw [← toOption_blockId (c := c)]
  rcases bind_eq_error.1 h with h | ⟨id, hid, h⟩
  · rw [h]
    exact failsAt_requireInt e h
  · rw [hid]
    refine FailsAt.bind (.conversion _) (fun statements => ?_) e h
    exact (FailsAt.mapM (fun _ => failsAt_statement) statements).bind fun _ =>
      (FailsAt.mapM_option (fun _ => failsAt_terminator) _).map _

theorem failsAt_nextBlock {g : Graph} : FailsAt ⟨c.function, idOf? v⟩ (nextBlock c g v) := by
  intro e h
  rcases bind_eq_error.1 h with h | ⟨b, hb, h⟩
  · obtain ⟨f, hf, he⟩ := mapError_eq_error.1 h
    cases f with
    | malformed e' =>
      cases he
      exact failsAt_block e hf
    | conversion e' =>
      rw [Failure.located] at he
      split_ifs at he
      cases he
      exact congrArg (Location.mk c.function) toOption_blockId
  · rw [idOf?_of_block (mapError_eq_ok.1 hb)]
    unfold addBlock at h
    split at h
    · cases h
    · exact failsAt_fail e h

end Blocks

/-! ### Functions -/

/-- An element behind others does not convert, or repeats the id of one of them. -/
def IsFaulty (c : Context) (before : List Value) (x : Value) : Prop :=
  (∀ b, block c x ≠ .ok b) ∨ ∃ n, idOf? x = some n ∧ ∃ y ∈ before, idOf? y = some n

/-- No element of a list is faulty. -/
def Faultless (c : Context) (xs : List Value) : Prop :=
  ∀ before x rest, xs = before ++ x :: rest → ¬ IsFaulty c before x

/-- The first faulty element of a list, and the elements in front of it. -/
def FirstFault (c : Context) (xs before : List Value) (x : Value) : Prop :=
  (∃ rest, xs = before ++ x :: rest) ∧ IsFaulty c before x ∧ Faultless c before

section Functions

variable {c : Context} {xs : List Value} {start g : Graph}

theorem FirstFault.not_faultless {before : List Value} {x : Value} (h : FirstFault c xs before x) :
    ¬ Faultless c xs := by
  obtain ⟨⟨rest, rfl⟩, hfault, -⟩ := h
  exact fun hnone => hnone before x rest rfl hfault

/-- Of two first faults neither stands in front of the other. -/
theorem FirstFault.unique {before before' : List Value} {x x' : Value} (h : FirstFault c xs before x)
    (h' : FirstFault c xs before' x') : x = x' := by
  obtain ⟨⟨rest, rfl⟩, hfault, hnone⟩ := h
  obtain ⟨⟨rest', hsplit⟩, hfault', hnone'⟩ := h'
  rcases List.append_eq_append_iff.1 hsplit with ⟨between, rfl, hx⟩ | ⟨between, rfl, hx⟩
  · cases between with
    | nil => exact (List.cons.inj hx).1
    | cons y between =>
      obtain ⟨rfl, -⟩ := List.cons.inj hx
      exact absurd hfault (hnone' _ _ _ rfl)
  · cases between with
    | nil => exact (List.cons.inj hx).1.symm
    | cons y between =>
      obtain ⟨rfl, -⟩ := List.cons.inj hx
      exact absurd hfault' (hnone _ _ _ rfl)

/-- The blocks of a graph are those that the elements taken so far convert to. -/
theorem mem_blocks_iff (hstart : start.blocks = []) (hg : xs.foldlM (nextBlock c) start = .ok g) {b : Block} :
    b ∈ g.blocks ↔ ∃ x ∈ xs, block c x = .ok b := by
  obtain ⟨bs, hbs, hperm⟩ := perm_of_foldlM_nextBlock hg
  rw [hperm.mem_iff, hstart, List.append_nil, mem_mapM hbs]

theorem faultless_of_foldlM (hstart : start.blocks = []) (hg : xs.foldlM (nextBlock c) start = .ok g) :
    Faultless c xs := by
  rintro before x rest rfl hfault
  rw [List.foldlM_append] at hg
  obtain ⟨front, hfront, hg⟩ := bind_eq_ok.1 hg
  obtain ⟨next, hnext, -⟩ := bind_eq_ok.1 hg
  obtain ⟨b, hb, hfresh, -⟩ := nextBlock_eq_ok.1 hnext
  rcases hfault with hnone | ⟨n, hn, y, hy, hny⟩
  · exact hnone b hb
  · -- the block of the same id in front of this one is in the graph
    obtain ⟨bs, hbs, -⟩ := perm_of_foldlM_nextBlock hfront
    obtain ⟨a, ha⟩ := exists_mapM_ok.1 ⟨bs, hbs⟩ y hy
    have hid : a.id = b.id := by
      rw [idOf?_of_block hb] at hn
      rw [idOf?_of_block ha, ← hn] at hny
      exact Option.some.inj hny
    exact hfresh a ((mem_blocks_iff hstart hfront).2 ⟨y, hy, ha⟩) hid

theorem isFaulty_of_nextBlock {before : List Value} {x : Value} {f : Failure} (hstart : start.blocks = [])
    (hg : before.foldlM (nextBlock c) start = .ok g) (hx : nextBlock c g x = .error f) : IsFaulty c before x := by
  by_cases hb : ∃ b, block c x = .ok b
  · obtain ⟨b, hb⟩ := hb
    have hused : ¬ ∀ a ∈ g.blocks, a.id ≠ b.id := by
      intro hfresh
      have hok : nextBlock c g x = .ok ⟨b.insert g.blocks, Block.pairwise_insert hfresh g.ordered⟩ :=
        nextBlock_eq_ok.2 ⟨b, hb, hfresh, rfl⟩
      rw [hok] at hx
      cases hx
    push Not at hused
    obtain ⟨a, ha, hid⟩ := hused
    obtain ⟨y, hy, ha⟩ := (mem_blocks_iff hstart hg).1 ha
    exact .inr ⟨b.id, idOf?_of_block hb, y, hy, hid ▸ idOf?_of_block ha⟩
  · exact .inl fun b h => hb ⟨b, h⟩

/-- A list is without faults if its elements convert to blocks with distinct ids. -/
theorem faultless_iff : Faultless c xs ↔ ∃ bs, Converts c xs bs ∧ (bs.map Block.id).Nodup := by
  have hfold : (∃ g, xs.foldlM (nextBlock c) {} = .ok g) ↔ ∃ bs, Converts c xs bs ∧ (bs.map Block.id).Nodup := by
    simp [exists_foldlM_nextBlock, mapM_eq_ok, Converts]
  rw [← hfold]
  constructor
  · intro hnone
    cases h : xs.foldlM (nextBlock c) {} with
    | ok g => exact ⟨g, rfl⟩
    | error f =>
      obtain ⟨before, x, rest, g, hsplit, hg, hx⟩ := foldlM_eq_error.1 h
      exact absurd (isFaulty_of_nextBlock rfl hg hx) (hnone before x rest hsplit)
  · rintro ⟨g, hg⟩
    exact faultless_of_foldlM rfl hg

/-- A block leads to `s`, which is the first of its successors that is not in a list of ids. -/
def Misses (ids : List Int) (b : Block) (s : Int) : Prop :=
  ∃ front rest, b.successors = front ++ s :: rest ∧ s ∉ ids ∧ ∀ t ∈ front, t ∈ ids

/-- What is found missing is the first missing successor of the first block that has one. -/
theorem misses_of_dangling? {id s : Int} (h : g.dangling? = some (id, s)) :
    ∃ b ∈ g.blocks, b.id = id ∧ Misses g.ids b s ∧
      ∀ a ∈ g.blocks, (∃ t, t ∈ a.successors ∧ t ∉ g.ids) → b.id ≤ a.id := by
  obtain ⟨front, b, rest, hblocks, hb, hfront⟩ := List.findSome?_eq_some_iff.1 h
  obtain ⟨s', hs, he⟩ := Option.map_eq_some_iff.1 hb
  cases he
  obtain ⟨hout, before, after, hsplit, hbefore⟩ := List.find?_eq_some_iff_append.1 hs
  refine ⟨b, by simp [hblocks], rfl, ⟨before, after, hsplit, by simpa using hout, by simpa using hbefore⟩, ?_⟩
  rintro a ha ⟨t, ht, hmiss⟩
  have hordered := g.ordered
  rw [hblocks, List.pairwise_append, List.pairwise_cons] at hordered
  rw [hblocks, List.mem_append, List.mem_cons] at ha
  rcases ha with ha | rfl | ha
  · have hnone := hfront a ha
    rw [Option.map_eq_none_iff, List.find?_eq_none] at hnone
    exact absurd (hnone t ht) (by simpa using hmiss)
  · exact Int.le_refl _
  · exact Int.le_of_lt (hordered.2.1.1 a ha)

/-- A graph fails at its first faulty element, or else at the first block with a missing successor. -/
theorem graph_eq_malformed {e : Error} (h : graph c (.array xs) = .error (.malformed e)) :
    (∃ before x, FirstFault c xs before x ∧ e.location = ⟨c.function, idOf? x⟩) ∨
    Faultless c xs ∧ ∃ bs b s, Converts c xs bs ∧ b ∈ bs ∧ e = ⟨.danglingTarget s, ⟨c.function, some b.id⟩⟩ ∧
      Misses (bs.map Block.id) b s ∧
      ∀ a ∈ bs, (∃ t, t ∈ a.successors ∧ t ∉ bs.map Block.id) → b.id ≤ a.id := by
  rcases bind_eq_error.1 h with h | ⟨xs', hxs, h⟩
  · cases h
  obtain rfl : xs = xs' := Except.ok.inj hxs
  rcases bind_eq_error.1 h with h | ⟨g, hg, h⟩
  · obtain ⟨before, x, rest, g, hsplit, hg, hx⟩ := foldlM_eq_error.1 h
    have hfirst : FirstFault c xs before x :=
      ⟨⟨rest, hsplit⟩, isFaulty_of_nextBlock rfl hg hx, faultless_of_foldlM rfl hg⟩
    exact .inl ⟨before, x, hfirst, failsAt_nextBlock e hx⟩
  · refine .inr ⟨faultless_of_foldlM rfl hg, ?_⟩
    obtain ⟨bs, hbs, hperm⟩ := perm_of_foldlM_nextBlock hg
    rw [List.append_nil] at hperm
    have hids (t : Int) : t ∈ g.ids ↔ t ∈ bs.map Block.id := (hperm.map Block.id).mem_iff
    rcases bind_eq_error.1 h with h | ⟨_, _, h⟩
    · unfold validate at h
      split at h
      · cases h
      · next id s hdangling =>
        obtain ⟨b, hb, rfl, ⟨front, rest, hsplit, hout, hfront⟩, hleast⟩ := misses_of_dangling? hdangling
        simp only [hids] at hout hfront hleast
        cases h
        exact ⟨bs, b, s, mapM_eq_ok.1 hbs, hperm.mem_iff.1 hb, rfl, ⟨front, rest, hsplit, hout, hfront⟩,
          fun a ha => hleast a (hperm.mem_iff.2 ha)⟩
    · exact absurd h pure_ne_error

theorem function_eq_malformed {file v name : Value} {e : Error} (hname : v.get? "name" = some name)
    (hspan : ∀ x, v.given? "span" = some x → ∃ s, span (functionContext file name) x = .ok s)
    (hblocks : v.get? "blocks" = some (.array xs)) (h : function file v = .error (.malformed e)) :
    graph (functionContext file name) (.array xs) = .error (.malformed e) := by
  unfold function at h
  rw [hname] at h
  rcases bind_eq_error.1 h with h | ⟨_, _, h⟩
  · unfold functionSpan at h
    split at h
    · next x hx =>
      obtain ⟨s, hs⟩ := hspan x hx
      exact absurd (hs.symm.trans h) (by simp)
    · cases h
  rcases bind_eq_error.1 h with h | ⟨blocks, hb, h⟩
  · have hok : (functionContext file name).require "function" v "blocks" = .ok (.array xs) :=
      Context.require_eq_ok.2 hblocks
    exact absurd (hok.symm.trans h) (by simp)
  obtain rfl : .array xs = blocks := Option.some.inj (hblocks.symm.trans (Context.require_eq_ok.1 hb))
  rcases bind_eq_error.1 h with h | ⟨_, _, h⟩
  · exact h
  · exact absurd h pure_ne_error

end Functions

/-- A message about a block in a function names both, the function in quotes unless its name is empty. -/
theorem describe_block (name : Text) (n : Int) (message : Text) :
    describe (.string name) (.int n) message =
      (if name.isEmpty then ({} : Text) else "function '" ++ name ++ "', ") ++ "bb" ++ toString n ++ ": " ++
        message := by
  have hblock : (Value.int n).display = toString n := rfl
  by_cases h : name.isEmpty = true
  · ext1
    simp [describe, Value.truthy, h, Value.isNull, hblock, Text.join]
  · have hquote : ("', " : Text).points = ("'" : Text).points ++ (", " : Text).points := rfl
    ext1
    simp [describe, Value.truthy, h, Value.isNull, hblock, Text.join, hquote]

theorem message_danglingTarget (name : Text) (id target : Int) :
    (⟨.danglingTarget target, ⟨.string name, some id⟩⟩ : Error).message =
      (if name.isEmpty then ({} : Text) else "function '" ++ name ++ "', ") ++ "bb" ++ toString id ++
        ": terminator targets unknown block bb" ++ toString target := by
  have hcolon : (": terminator targets unknown block bb" : Text).points =
      (": " : Text).points ++ ("terminator targets unknown block bb" : Text).points := rfl
  have hdescribe := describe_block name id (Problem.danglingTarget target).message
  rw [Error.message, Location.describe, Location.blockValue, Option.map_some, Option.getD_some, hdescribe]
  ext1
  simp [Problem.message, hcolon]

/-- A malformed function is reported under its name. If an element of its list of blocks does not convert or repeats an
id, then the block reported is the integer that the id of the first such element stands for, and there is none just when
that element is no object, has no id or has one that stands for no integer. If there is no such element, then it is the
least block that leads to one that is missing, and the message names the first one missing. -/
theorem function_malformed_location {file v name : Value} {xs : List Value} {e : Error}
    (hname : v.get? "name" = some name)
    (hspan : ∀ x, v.given? "span" = some x → ∃ s, span (functionContext file name) x = .ok s)
    (hblocks : v.get? "blocks" = some (.array xs)) (h : function file v = .error (.malformed e)) :
    e.location.function = .string name.display ∧
    (¬ Faultless (functionContext file name) xs → ∃ before x, FirstFault (functionContext file name) xs before x) ∧
    (∀ before x, FirstFault (functionContext file name) xs before x →
      (∀ n, e.location.block = some n ↔ ∃ id, x.get? "id" = some id ∧ id.toInt = .ok n) ∧
      (e.location.block = none ↔
        x.shape ≠ .object ∨ x.get? "id" = none ∨ ∃ id f, x.get? "id" = some id ∧ id.toInt = .error f)) ∧
    (Faultless (functionContext file name) xs →
      ∃ bs b s, Converts (functionContext file name) xs bs ∧ b ∈ bs ∧ e.location.block = some b.id ∧
        (∀ a ∈ bs, (∃ t, t ∈ a.successors ∧ t ∉ bs.map Block.id) → b.id ≤ a.id) ∧ Misses (bs.map Block.id) b s ∧
        e.message = (if name.display.isEmpty then ({} : Text) else "function '" ++ name.display ++ "', ") ++
          "bb" ++ toString b.id ++ ": terminator targets unknown block bb" ++ toString s) := by
  have hgraph := graph_eq_malformed (function_eq_malformed hname hspan hblocks h)
  rcases hgraph with ⟨before, x, hfirst, hlocation⟩ | ⟨hnone, bs, b, s, hbs, hb, rfl, hmisses, hleast⟩
  · refine ⟨by rw [hlocation]; rfl, fun _ => ⟨before, x, hfirst⟩, fun before' x' hfirst' => ?_,
      fun hnone => absurd hnone hfirst.not_faultless⟩
    obtain rfl := hfirst.unique hfirst'
    rw [hlocation]
    exact ⟨fun n => idOf?_eq_some_iff, idOf?_eq_none_iff⟩
  · exact ⟨rfl, fun hfault => absurd hnone hfault, fun _ _ hfirst => absurd hnone hfirst.not_faultless,
      fun _ => ⟨bs, b, s, hbs, hb, rfl, hleast, hmisses, message_danglingTarget _ _ _⟩⟩

/-- A block 4 that leads to block 2. -/
def jumpToTwo : Value :=
  .record [("id", .ofString "4"),
    ("terminator", .record [("kind", .ofString "Goto"), ("span", .record []), ("target", .int 2)])]

/-- A function with a number for a name, of that block and another element. -/
def jumpThen (x : Value) : Value := .record [("name", .int 7), ("blocks", .array [jumpToTwo, x])]

/-- An id of 4.5 repeats the first one. An element that is no object has no id, though the block in front of it has one.
A block that is missing is reported of the one that leads to it. -/
theorem function_malformed_location_jumpThen :
    (∃ e, function .null (jumpThen (.record [("id", .float (.finite false 9 (-1)))])) = .error (.malformed e) ∧
      e.location.block = some 4) ∧
    (∃ e, function .null (jumpThen (.ofString "bb2")) = .error (.malformed e) ∧ e.location.block = none) ∧
    ∃ e b s, function .null (jumpThen (.record [("id", .int 3)])) = .error (.malformed e) ∧
      e.location.block = some b.id ∧ Misses [4, 3] b s ∧
      e.message = "function '7', bb" ++ toString b.id ++ ": terminator targets unknown block bb" ++ toString s ∧
      e.message = "function '7', bb4: terminator targets unknown block bb2" := by
  have hspan {v : Value} (hnone : v.given? "span" = none) : ∀ x, v.given? "span" = some x →
      ∃ s, span (functionContext .null (.int 7)) x = .ok s := by
    intro x hx
    rw [hnone] at hx
    cases hx
  have hjump : Faultless (functionContext .null (.int 7)) [jumpToTwo] :=
    faultless_iff.2 ⟨_, .cons rfl .nil, by decide⟩
  refine ⟨⟨⟨.duplicateBlock, ⟨.ofString "7", some 4⟩⟩, ?_⟩,
    ⟨⟨.notObject "basic block" .string, ⟨.ofString "7", none⟩⟩, ?_⟩, ⟨.danglingTarget 2, ⟨.ofString "7", some 4⟩⟩, ?_⟩
  · have h : function .null (jumpThen (.record [("id", .float (.finite false 9 (-1)))])) =
        .error (.malformed ⟨.duplicateBlock, ⟨.ofString "7", some 4⟩⟩) := rfl
    have hfirst := (function_malformed_location rfl (hspan rfl) rfl h).2.2.1 [jumpToTwo] _
      ⟨⟨[], rfl⟩, .inr ⟨4, rfl, jumpToTwo, List.mem_cons_self, rfl⟩, hjump⟩
    exact ⟨h, (hfirst.1 4).2 ⟨.float (.finite false 9 (-1)), rfl, rfl⟩⟩
  · have h : function .null (jumpThen (.ofString "bb2")) =
        .error (.malformed ⟨.notObject "basic block" .string, ⟨.ofString "7", none⟩⟩) := rfl
    have hfirst := (function_malformed_location rfl (hspan rfl) rfl h).2.2.1 [jumpToTwo] _
      ⟨⟨[], rfl⟩, .inl (fun b hb => by cases hb), hjump⟩
    exact ⟨h, hfirst.2.2 (.inl (by decide))⟩
  · have h : function .null (jumpThen (.record [("id", .int 3)])) =
        .error (.malformed ⟨.danglingTarget 2, ⟨.ofString "7", some 4⟩⟩) := rfl
    have hconverts : Converts (functionContext .null (.int 7)) [jumpToTwo, .record [("id", .int 3)]] _ :=
      .cons rfl (.cons rfl .nil)
    obtain ⟨bs, b, s, hbs, -, hblock, -, hmisses, hmessage⟩ :=
      (function_malformed_location rfl (hspan rfl) rfl h).2.2.2 (faultless_iff.2 ⟨_, hconverts, by decide⟩)
    obtain rfl := hbs.unique hconverts
    have hfront : (if (Value.int 7).display.isEmpty then ({} : Text)
        else "function '" ++ (Value.int 7).display ++ "', ") ++ "bb" = "function '7', bb" := rfl
    rw [hfront] at hmessage
    exact ⟨b, s, h, hblock, hmisses, hmessage, rfl⟩

end ContractLint.Dump
