/-! Association lists that keep the order in which their keys first came. Writing to a key that is already
there replaces its value in place. -/

namespace ContractLint.Assoc

variable {κ ν : Type} [DecidableEq κ]

/-- The value under the first entry with key `k`. -/
def get? : List (κ × ν) → κ → Option ν
  | [], _ => none
  | (k', v) :: rest, k => if k' = k then some v else get? rest k

/-- Replaces the value under `k`, or adds an entry at the end. -/
def put : List (κ × ν) → κ → ν → List (κ × ν)
  | [], k, v => [(k, v)]
  | (k', v') :: rest, k, v => if k' = k then (k', v) :: rest else (k', v') :: put rest k v

/-- Appends `v` to the list under `k`, which is empty if there is no entry yet. -/
def push (entries : List (κ × List ν)) (k : κ) (v : ν) : List (κ × List ν) :=
  put entries k ((get? entries k).getD [] ++ [v])

/-- The entries of a list of pairs, a later pair overriding an earlier one with its key. -/
def ofPairs (pairs : List (κ × ν)) : List (κ × ν) :=
  pairs.foldl (fun entries p => put entries p.1 p.2) []

/-- Puts an entry in front of the first one with a greater key. -/
def insertByKey (e : Int × ν) : List (Int × ν) → List (Int × ν)
  | [] => [e]
  | f :: rest => if e.1 < f.1 then e :: f :: rest else f :: insertByKey e rest

/-- The entries in order of their keys; entries with the same key keep their order. -/
def sortByKey (entries : List (Int × ν)) : List (Int × ν) :=
  entries.foldl (fun sorted e => insertByKey e sorted) []

@[simp] theorem get?_put_self (entries : List (κ × ν)) (k : κ) (v : ν) :
    get? (put entries k v) k = some v := by
  induction entries with
  | nil => simp [put, get?]
  | cons e rest ih => by_cases h : e.1 = k <;> simp [put, get?, h, ih]

theorem get?_put_of_ne (entries : List (κ × ν)) {k k' : κ} (v : ν) (h : k ≠ k') :
    get? (put entries k v) k' = get? entries k' := by
  induction entries with
  | nil => simp [put, get?, h]
  | cons e rest ih =>
    by_cases he : e.1 = k
    · simp [put, get?, he, h]
    · by_cases hk : e.1 = k' <;> simp [put, get?, he, hk, ih, Ne.symm h]

theorem keys_put (entries : List (κ × ν)) (k : κ) (v : ν) :
    (put entries k v).map Prod.fst =
      if k ∈ entries.map Prod.fst then entries.map Prod.fst else entries.map Prod.fst ++ [k] := by
  induction entries with
  | nil => simp [put]
  | cons e rest ih =>
    by_cases he : e.1 = k
    · simp [put, he]
    · simp only [put, he, if_false, List.map_cons, ih, List.mem_cons, Ne.symm he, false_or]
      split <;> simp

omit [DecidableEq κ] in
theorem mem_insertByKey {e f : Int × ν} {entries : List (Int × ν)} :
    f ∈ insertByKey e entries ↔ f = e ∨ f ∈ entries := by
  induction entries with
  | nil => simp [insertByKey]
  | cons g rest ih =>
    by_cases h : e.1 < g.1
    · simp [insertByKey, h]
    · simp only [insertByKey, h, if_false, List.mem_cons, ih]
      exact or_left_comm

end ContractLint.Assoc
