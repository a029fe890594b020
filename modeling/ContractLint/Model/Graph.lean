import ContractLint.Model.Item
import ContractLint.Value.Key

/-! Control-flow graphs. The blocks of a graph have distinct ids and stand in increasing order of them, which is
the order in which they are visited. -/

namespace ContractLint

/-- Instructions in order, ended by a terminator. -/
structure Block where
  id : Int
  statements : List Statement := []
  terminator : Option Terminator := none
  deriving DecidableEq, Repr, Inhabited

namespace Block

def items (b : Block) : List Item := b.statements.map .statement ++ b.terminator.toList.map .terminator

def successors (b : Block) : List Int := (b.terminator.map fun t => t.kind.successors).getD []

def label (b : Block) : String :=
  let ending := (b.terminator.map fun t => t.kind.name).getD "-"
  "bb" ++ toString b.id ++ " [" ++ toString b.statements.length ++ " stmts, " ++ ending ++ "]"

/-- Puts a block in front of the first one with a greater id. -/
def insert (b : Block) : List Block → List Block
  | [] => [b]
  | c :: rest => if b.id < c.id then b :: c :: rest else c :: insert b rest

theorem mem_insert {a b : Block} {blocks : List Block} : a ∈ insert b blocks ↔ a = b ∨ a ∈ blocks := by
  induction blocks with
  | nil => simp [insert]
  | cons c rest ih =>
    by_cases h : b.id < c.id
    · simp [insert, h]
    · simp only [insert, h, if_false, List.mem_cons, ih]
      exact or_left_comm

theorem pairwise_insert {b : Block} {blocks : List Block} (fresh : ∀ c ∈ blocks, c.id ≠ b.id)
    (h : blocks.Pairwise fun a c => a.id < c.id) : (insert b blocks).Pairwise fun a c => a.id < c.id := by
  induction blocks with
  | nil => simp [insert]
  | cons c rest ih =>
    rw [List.pairwise_cons] at h
    by_cases hlt : b.id < c.id
    · simp only [insert, hlt, if_true, List.pairwise_cons, List.mem_cons, forall_eq_or_imp, true_and]
      exact ⟨fun a ha => Int.lt_trans hlt (h.1 a ha), h⟩
    · simp only [insert, hlt, if_false, List.pairwise_cons]
      refine ⟨fun a ha => ?_, ih (fun a ha => fresh a (List.mem_cons_of_mem _ ha)) h.2⟩
      rcases mem_insert.1 ha with rfl | ha
      · have := fresh c List.mem_cons_self
        omega
      · exact h.1 a ha

end Block

/-- Blocks with distinct ids, in order. -/
structure Graph where
  blocks : List Block := []
  ordered : blocks.Pairwise (fun a b => a.id < b.id) := by exact .nil
  deriving DecidableEq

namespace Graph

def ids (g : Graph) : List Int := g.blocks.map (·.id)

def block? (g : Graph) (id : Int) : Option Block := g.blocks.find? (·.id = id)

def items (g : Graph) : List Item := g.blocks.flatMap Block.items

/-- Adds a block, unless there is one with its id. -/
def add? (g : Graph) (block : Block) : Option Graph :=
  if fresh : ∀ c ∈ g.blocks, c.id ≠ block.id then
    some ⟨block.insert g.blocks, Block.pairwise_insert fresh g.ordered⟩
  else none

def successors (g : Graph) (id : Int) : List Int := ((g.block? id).map Block.successors).getD []

/-- The blocks from which control may pass to `id`, which need not be a block itself. -/
def predecessors (g : Graph) (id : Int) : List Int :=
  (g.blocks.filter fun b => b.successors.contains id).map (·.id)

/-- The first block with a successor that is not in the graph, and its first such successor. -/
def dangling? (g : Graph) : Option (Int × Int) :=
  g.blocks.findSome? fun b => (b.successors.find? fun s => !g.ids.contains s).map fun s => (b.id, s)

/-! ### Ids that need not be integers -/

/-- The block whose id a key is alike. -/
def blockUnder (g : Graph) (id : Value) : Except NotKey (Option Block) := do
  let id ← id.key
  return g.blocks.find? fun b => id.alike (.int b.id)

/-- The successors of the block under a key. -/
def successorsUnder (g : Graph) (id : Value) : Except NotKey (List Int) := do
  return ((← g.blockUnder id).map Block.successors).getD []

/-- The blocks with a successor that a value is alike. -/
def predecessorsOf (g : Graph) (id : Value) : List Int :=
  (g.blocks.filter fun b => b.successors.any fun s => id.alike (.int s)).map (·.id)

/-- The graph of a function with the given name, in short. -/
def describe (g : Graph) (name : Value) : String :=
  "FunctionBody(name=" ++ name.inspect ++ ", nblocks=" ++ toString g.blocks.length ++ ")"

theorem blockUnder_int (g : Graph) (id : Int) : g.blockUnder (.int id) = .ok (g.block? id) := by
  simp [blockUnder, block?, Value.key, Value.isKey, Value.alike_int, eq_comm, bind, Except.bind, pure, Except.pure]

end Graph

end ContractLint
