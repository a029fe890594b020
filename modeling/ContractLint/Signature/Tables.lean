import ContractLint.Signature.Path

/-! Signature tables: sets of normalised callee paths under five fixed names. -/

namespace ContractLint

inductive TableName where
  | balanceRead
  | valueTransfer
  | randomnessSource
  | clockSource
  | roundingFunction
  deriving DecidableEq, Repr

namespace TableName

def all : List TableName := [.balanceRead, .valueTransfer, .randomnessSource, .clockSource, .roundingFunction]

def text : TableName → String
  | .balanceRead => "balance-read"
  | .valueTransfer => "value-transfer"
  | .randomnessSource => "randomness-source"
  | .clockSource => "clock-source"
  | .roundingFunction => "rounding-function"

def ofText? (s : String) : Option TableName := all.find? (·.text = s)

theorem ofText?_text (n : TableName) : ofText? n.text = some n := by cases n <;> decide

end TableName

/-- Adds a text to a sorted list without repetitions. -/
def insertText (s : Text) : List Text → List Text
  | [] => [s]
  | t :: rest => if s.compare t = .lt then s :: t :: rest else if s = t then t :: rest else t :: insertText s rest

theorem mem_insertText {s t : Text} {texts : List Text} : t ∈ insertText s texts ↔ t = s ∨ t ∈ texts := by
  induction texts with
  | nil => simp [insertText]
  | cons x rest ih =>
    simp only [insertText]
    split
    · simp
    · split
      · rename_i h
        subst h
        simp
      · simp only [List.mem_cons, ih]
        exact or_left_comm

/-- The texts of a list in order, each once. -/
def sortedTexts (texts : List Text) : List Text := texts.foldr insertText []

theorem mem_sortedTexts {t : Text} {texts : List Text} : t ∈ sortedTexts texts ↔ t ∈ texts := by
  induction texts with
  | nil => simp [sortedTexts]
  | cons s rest ih =>
    rw [List.mem_cons, ← ih]
    exact mem_insertText

/-- A set of paths, in order. Each of them is what some value is normalised to. -/
structure Table where
  entries : List Text
  given : ∀ e ∈ entries, ∃ v, Path.ofValue v = .ok e
  deriving DecidableEq, Repr

namespace Table

/-- The table of paths that are normalised already. -/
def ofGiven (paths : List Text) (given : ∀ p ∈ paths, ∃ v, Path.ofValue v = .ok p) : Table :=
  ⟨sortedTexts paths, fun e he => given e (mem_sortedTexts.1 he)⟩

theorem exists_ofValue_of_mem_map {p : Text} {paths : List Text} (h : p ∈ paths.map Path.normalize) :
    ∃ v, Path.ofValue v = .ok p := by
  obtain ⟨path, -, rfl⟩ := List.mem_map.1 h
  exact ⟨.string path, rfl⟩

/-- The table of the normalised paths. -/
def ofPaths (paths : List Text) : Table := ofGiven (paths.map Path.normalize) fun _ => exists_ofValue_of_mem_map

def empty : Table := ofPaths []

theorem exists_ofValue_of_mapM {vs : List Value} {paths : List Text} (h : vs.mapM Path.ofValue = .ok paths) :
    ∀ p ∈ paths, ∃ v, Path.ofValue v = .ok p := by
  induction vs generalizing paths with
  | nil =>
    cases h
    simp
  | cons v vs ih =>
    rw [List.mapM_cons] at h
    cases hv : Path.ofValue v with
    | error e => simp [hv, bind, Except.bind] at h
    | ok p =>
      cases hvs : vs.mapM Path.ofValue with
      | error e => simp [hv, hvs, bind, Except.bind] at h
      | ok rest =>
        simp only [hv, hvs, bind, Except.bind, pure, Except.pure, Except.ok.injEq] at h
        subst h
        exact List.forall_mem_cons.2 ⟨⟨v, hv⟩, ih hvs⟩

/-- The table of the paths that dynamic values give. -/
def ofValues (vs : List Value) : Except PathError Table :=
  match h : vs.mapM Path.ofValue with
  | .ok paths => .ok (ofGiven paths (exists_ofValue_of_mapM h))
  | .error e => .error e

/-- Whether the normalised path of a callee is in the table. -/
def covers (t : Table) (callee : Text) : Bool := t.entries.contains (Path.normalize callee)

/-- Whether the path that a dynamic value gives is in the table. -/
def matchesValue (t : Table) (callee : Value) : Except PathError Bool :=
  (Path.ofValue callee).map t.entries.contains

/-- Whether a value is a text whose normalised path is in the table. -/
def containsValue (t : Table) : Value → Bool
  | .string s => t.covers s
  | _ => false

def size (t : Table) : Nat := t.entries.length

theorem ofValues_of_mapM {vs : List Value} {paths : List Text} (h : vs.mapM Path.ofValue = .ok paths) :
    ofValues vs = .ok (ofGiven paths (exists_ofValue_of_mapM h)) := by
  unfold ofValues
  split
  · next paths' h' =>
    cases h.symm.trans h'
    rfl
  · next e h' => cases h.symm.trans h'

theorem ofValues_map_string (paths : List Text) : ofValues (paths.map .string) = .ok (ofPaths paths) := by
  have h : (paths.map Value.string).mapM Path.ofValue = .ok (paths.map Path.normalize) := by
    induction paths with
    | nil => rfl
    | cons p paths ih =>
      rw [List.map_cons, List.mapM_cons, ih]
      rfl
  exact ofValues_of_mapM h

theorem mem_ofPaths {p : Text} {paths : List Text} :
    p ∈ (ofPaths paths).entries ↔ ∃ q ∈ paths, Path.normalize q = p := by
  simp [ofPaths, ofGiven, mem_sortedTexts]

end Table

/-- A table under each of the five names. -/
structure Tables where
  table : TableName → Table

namespace Tables

def empty : Tables := ⟨fun _ => .empty⟩

/-- The tables of named paths. -/
def ofEntries (entries : List (TableName × Text)) : Tables :=
  ⟨fun n => .ofPaths ((entries.filter (·.1 = n)).map Prod.snd)⟩

/-- The union of two families of tables. -/
def merge (t u : Tables) : Tables := ⟨fun n => .ofPaths ((t.table n).entries ++ (u.table n).entries)⟩

/-- The paths of the standard tables, for programs of the Solana runtime. -/
def standardPaths : TableName → List Text
  | .balanceRead => ["std::collections::HashMap::get_mut"]
  | .valueTransfer => ["solana_program::account_info::AccountInfo::try_borrow_mut_lamports"]
  | .randomnessSource => ["rand::random", "rand::thread_rng", "rand::Rng::gen", "rand::Rng::gen_range"]
  | .clockSource => ["solana_program::sysvar::clock::Clock::get", "solana_program::clock::Clock::get"]
  | .roundingFunction => ["std::f64::<impl f64>::round", "std::f32::<impl f32>::round"]

def standard : Tables := ⟨fun n => .ofPaths (standardPaths n)⟩

/-- The entries of every table, by name. -/
def listing (t : Tables) : List (String × List Text) := TableName.all.map fun n => (n.text, (t.table n).entries)

def describe (t : Tables) : String :=
  let sizes := TableName.all.map fun n => n.text ++ "=" ++ toString (t.table n).size
  "SignatureTables(" ++ ", ".intercalate sizes ++ ")"

/-- A table under its name, with its size. -/
def describeTable (t : Tables) (n : TableName) : String :=
  "<SignatureTable '" ++ n.text ++ "' (" ++ toString (t.table n).size ++ " entries)>"

end Tables

end ContractLint
