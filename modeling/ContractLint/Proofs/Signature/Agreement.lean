import ContractLint.Proofs.Assoc
import ContractLint.Proofs.SExpr.Reading
import ContractLint.Proofs.Signature.Configuration
import ContractLint.Signature.Mapping

/-! Configurations in text form and as values agree. A mapping gives paths for some of the tables. Its text has a clause
for each of these, in which the paths stand as strings; whatever characters they have, reading takes them back, and a
comment behind the form does not reach the bracket that is put around it. Its value has a field for each. Both describe
the tables of its paths. -/

namespace ContractLint

theorem TableName.text_injective {k n : TableName} (h : k.text = n.text) : k = n := by
  have hread := ofText?_text k
  rw [h, ofText?_text] at hread
  exact (Option.some.inj hread).symm

/-- What has been seen at any point are keys that came before. -/
theorem Value.mem_or_mem_of_mem_seen {keys seen : List Value} {v : Value}
    (h : v ∈ keys.foldl (fun seen v => if seen.any (alike · v) then seen else seen ++ [v]) seen) :
    v ∈ seen ∨ v ∈ keys := by
  induction keys generalizing seen with
  | nil => exact .inl h
  | cons w keys ih =>
    rw [List.foldl_cons] at h
    rcases ih h with h | h
    · split at h
      · exact .inl h
      · rcases List.mem_append.1 h with h | h
        · exact .inl h
        · exact .inr (List.mem_singleton.1 h ▸ List.mem_cons_self)
    · exact .inr (List.mem_cons_of_mem w h)

theorem Value.mem_of_mem_distinct {keys : List Value} {v : Value} (h : v ∈ distinct keys) : v ∈ keys := by
  rcases mem_or_mem_of_mem_seen h with h | h
  · cases h
  · exact h

namespace Signature

open Outcome

/-- Paths for some of the tables, none of them blank. -/
structure Mapping where
  clauses : List (TableName × List String)
  distinct : (clauses.map Prod.fst).Nodup
  not_blank : ∀ c ∈ clauses, ∀ path ∈ c.2, ∃ x ∈ path.toList, Text.isBlank x = false

/-- A comment that takes up the rest of a line, behind blanks. -/
structure Comment where
  blanks : List Char
  text : List Char
  blank : ∀ c ∈ blanks, SExpr.isSpace c = true
  one_line : '\n' ∉ text

/-- A string in quotes. -/
def quotedChars (s : String) : List Char := '"' :: (s.toList.flatMap SExpr.escapedChar ++ ['"'])

def pathsChars (paths : List String) : List Char := paths.flatMap fun path => ' ' :: quotedChars path

def clauseChars (c : TableName × List String) : List Char := '(' :: (c.1.text.toList ++ pathsChars c.2 ++ [')'])

def clausesChars (cs : List (TableName × List String)) : List Char := cs.flatMap fun c => ' ' :: clauseChars c

namespace Mapping

/-- The mapping as a configuration in text form. -/
def chars (m : Mapping) : List Char := '(' :: ("signatures".toList ++ clausesChars m.clauses ++ [')'])

/-- The mapping as a value. -/
def value (m : Mapping) : Value := .record (m.clauses.map fun c => (c.1.text, .array (c.2.map .ofString)))

/-- The paths for a table. -/
def paths (m : Mapping) (n : TableName) : List Text := ((Assoc.get? m.clauses n).getD []).map .ofString

def tables (m : Mapping) : Tables := ⟨fun n => .ofPaths (m.paths n)⟩

end Mapping

def Comment.chars (c : Comment) : List Char := c.blanks ++ ';' :: c.text

/-- A comment, if there is one. -/
def commentChars (comment : Option Comment) : List Char := (comment.map Comment.chars).getD []

/-! ### Reading the text -/

section Reading

open SExpr

variable {cs rest : List Char} {es : List SExpr}

theorem reads_paths (paths : List String) (h : Reads cs es rest) :
    Reads (pathsChars paths ++ cs) (paths.map .string ++ es) rest := by
  induction paths with
  | nil => exact h
  | cons path paths ih =>
    have hchars : pathsChars (path :: paths) ++ cs =
        ' ' :: '"' :: (path.toList.flatMap escapedChar ++ '"' :: (pathsChars paths ++ cs)) := by
      simp [pathsChars, quotedChars]
    rw [hchars]
    exact (ih.string path).space rfl

theorem isWord_table (n : TableName) : IsWord n.text := by
  constructor
  · cases n <;> decide
  · rw [← List.all_eq_true]
    cases n <;> decide
  · cases n <;> rfl

theorem isWord_signatures : IsWord "signatures" :=
  ⟨by decide, List.all_eq_true.1 (by decide), rfl⟩

/-- The expression of a clause. -/
def clauseExpr (c : TableName × List String) : SExpr := .list (.symbol c.1.text :: c.2.map .string)

theorem reads_clause (c : TableName × List String) (h : Reads cs es rest) :
    Reads (clauseChars c ++ cs) (clauseExpr c :: es) rest := by
  have hclose : Reads (')' :: cs) [] (')' :: cs) := .closing rfl cs
  have hpaths := reads_paths c.2 hclose
  rw [List.append_nil] at hpaths
  refine Reads.form (isWord_table c.1) ?_ hpaths h
  -- a blank in front of a path or the bracket at the end ends the name
  cases c.2 with
  | nil => exact endsAtom_cons rfl _
  | cons path paths => exact endsAtom_cons rfl _

theorem reads_clauses (clauses : List (TableName × List String)) (h : Reads cs es rest) :
    Reads (clausesChars clauses ++ cs) (clauses.map clauseExpr ++ es) rest := by
  induction clauses with
  | nil => exact h
  | cons c clauses ih =>
    have hchars : clausesChars (c :: clauses) ++ cs = ' ' :: (clauseChars c ++ (clausesChars clauses ++ cs)) := by
      simp [clausesChars]
    rw [hchars]
    exact (reads_clause c ih).space rfl

theorem reads_mapping (m : Mapping) (h : Reads cs es rest) :
    Reads (m.chars ++ cs) (.list (.symbol "signatures" :: m.clauses.map clauseExpr) :: es) rest := by
  have hclose : Reads (')' :: cs) [] (')' :: cs) := .closing rfl cs
  have hclauses := reads_clauses m.clauses hclose
  rw [List.append_nil] at hclauses
  refine Reads.form isWord_signatures ?_ hclauses h
  cases m.clauses with
  | nil => exact endsAtom_cons rfl _
  | cons c clauses => exact endsAtom_cons rfl _

/-- The line break in front of the last bracket keeps it out of a comment. -/
theorem reads_comment (comment : Option Comment) : Reads (commentChars comment ++ ['\n', ')']) [] [')'] := by
  have hend : Reads [')'] [] [')'] := .closing rfl []
  cases comment with
  | none => exact hend.space rfl
  | some c =>
    have hchars : commentChars (some c) ++ ['\n', ')'] = c.blanks ++ ';' :: (c.text ++ '\n' :: [')']) := by
      simp [commentChars, Comment.chars]
    rw [hchars]
    exact (hend.comment c.one_line).blanks c.blank

theorem readAll_mapping (m : Mapping) (comment : Option Comment) :
    readAll (m.chars ++ commentChars comment) =
      .ok (.list [.list (.symbol "signatures" :: m.clauses.map clauseExpr)]) := by
  apply readAll_eq
  rw [List.append_assoc]
  exact reads_mapping m (reads_comment comment)

end Reading

/-! ### The tables of the text -/

theorem clause_clauseExpr (m : Mapping) {c : TableName × List String} (hc : c ∈ m.clauses) :
    clause true (clauseExpr c) = .ok (.additions c.1 c.2) :=
  clause_first_eq_ok.2 (.additions rfl (m.not_blank c hc))

theorem ofForms_mapping (m : Mapping) :
    ofForms (.list [.list (.symbol "signatures" :: m.clauses.map clauseExpr)]) =
      .ok (tablesOf (m.clauses.map fun c => .additions c.1 c.2)) := by
  have hclauses : (m.clauses.map clauseExpr).mapM (clause true) = .ok (m.clauses.map fun c => .additions c.1 c.2) := by
    rw [mapM_eq_ok, List.forall₂_map_left_iff, List.forall₂_map_right_iff, List.forall₂_same]
    exact fun c hc => clause_clauseExpr m hc
  have hform : ∀ e ∈ m.clauses.map clauseExpr, ∃ n paths, Says e (.additions n paths) := by
    intro e he
    obtain ⟨c, hc, rfl⟩ := List.mem_map.1 he
    exact ⟨c.1, c.2, clause_first_eq_ok.1 (clause_clauseExpr m hc)⟩
  refine ofForms_eq_ok.2 ⟨_, _, ⟨⟨_, rfl, rfl⟩, ?_, ?_⟩, hclauses, rfl⟩
  · intro e he
    obtain ⟨n, paths, hadd⟩ := hform e he
    exact ⟨_, hadd⟩
  · intro e he hext
    obtain ⟨n, paths, hadd⟩ := hform e (List.mem_of_mem_tail he)
    exact Clause.noConfusion (hext.unique hadd)

theorem tablesOf_mapping (m : Mapping) : tablesOf (m.clauses.map fun c => .additions c.1 c.2) = m.tables := by
  have hplain : ¬ (m.clauses.map fun c => Clause.additions c.1 c.2).contains .extendsDefault = true := by
    simp
  have hentries : (m.clauses.map fun c => Clause.additions c.1 c.2).flatMap Clause.entries =
      m.clauses.flatMap fun c => c.2.map fun path => (c.1, Text.ofString path) := by
    rw [List.flatMap_map]
    rfl
  rw [tablesOf, if_neg hplain, hentries, Tables.ofEntries, Mapping.tables]
  congr 1
  funext n
  rw [Assoc.filter_flatMap_of_nodup m.distinct, Mapping.paths]

theorem parse_mapping (m : Mapping) (comment : Option Comment) (source : Value) :
    parse (m.chars ++ commentChars comment) source = .ok m.tables := by
  refine ofRead_eq_ok.2 ⟨_, readAll_mapping m comment, ?_⟩
  rw [ofForms_mapping, tablesOf_mapping]

/-! ### The tables of the value -/

theorem unknownNames_of_tables {keys : List Value} (h : ∀ v ∈ keys, ∃ n : TableName, v = .ofString n.text) :
    unknownNames keys = .ok [] := by
  have hkeys : keys.mapM Value.key = .ok keys := by
    rw [mapM_eq_ok, List.forall₂_same]
    intro v hv
    obtain ⟨n, rfl⟩ := h v hv
    rfl
  have hnone : (Value.distinct keys).filter (fun v => (tableName? v).isNone) = [] := by
    rw [List.filter_eq_nil_iff]
    intro v hv
    obtain ⟨n, rfl⟩ := h v (Value.mem_of_mem_distinct hv)
    simp [tableName?, TableName.ofText?_text]
  rw [unknownNames, hkeys]
  simp only [Except.mapError, bind, Except.bind, hnone, pure, Except.pure]

/-- An object whose fields all have names of tables is taken if the table under each name is. -/
theorem ofValue_object {fields : List (Text × Value)} (hne : fields ≠ [])
    (hkeys : ∀ f ∈ fields, ∃ n : TableName, f.1 = n.text) {t : Tables}
    (hfound : ∀ n, tableUnder (.object fields) n = .ok (t.table n)) : ofValue (.object fields) = .ok t := by
  have htruthy : (!(Value.object fields).truthy) = false := by simp [Value.truthy, hne]
  have hunknown : unknownNames (fields.map fun f => .string f.1) = .ok [] := by
    apply unknownNames_of_tables
    intro v hv
    obtain ⟨f, hf, rfl⟩ := List.mem_map.1 hv
    obtain ⟨n, hn⟩ := hkeys f hf
    exact ⟨n, by rw [hn, Value.ofString]⟩
  have hall : (TableName.all.mapM fun n => do return (n, ← tableUnder (.object fields) n)) =
      .ok (TableName.all.map fun n => (n, t.table n)) := by
    rw [mapM_eq_ok, List.forall₂_map_right_iff, List.forall₂_same]
    exact fun n _ => bind_eq_ok.2 ⟨t.table n, hfound n, rfl⟩
  have hget (n : TableName) : Assoc.get? (TableName.all.map fun n => (n, t.table n)) n = some (t.table n) := by
    cases n <;> rfl
  rw [ofValue, htruthy, if_neg Bool.false_ne_true]
  refine bind_eq_ok.2 ⟨fields.map fun f => .string f.1, rfl, bind_eq_ok.2 ⟨[], hunknown, ?_⟩⟩
  refine bind_eq_ok.2 ⟨_, hall, ?_⟩
  simp only [hget, Option.getD_some]
  rfl

namespace Mapping

theorem get?_value (m : Mapping) (n : TableName) :
    m.value.get? n.text = (Assoc.get? m.clauses n).map fun paths => .array (paths.map .ofString) := by
  rw [value, Value.get?_record]
  induction m.clauses with
  | nil => rfl
  | cons c clauses ih =>
    by_cases hc : c.1 = n
    · simp [Assoc.get?, hc]
    · have htext : c.1.text ≠ n.text := fun h => hc (TableName.text_injective h)
      simpa [Assoc.get?, hc, htext] using ih

theorem tableUnder_value (m : Mapping) (n : TableName) : tableUnder m.value n = .ok (m.tables.table n) := by
  have hparts : ((m.value.get? n.text).getD (.array [])).parts = .ok ((m.paths n).map .string) := by
    rw [get?_value, paths, List.map_map]
    cases Assoc.get? m.clauses n with
    | none => rfl
    | some paths => rfl
  exact bind_eq_ok.2 ⟨_, mapError_eq_ok.2 hparts, mapError_eq_ok.2 (Table.ofValues_map_string _)⟩

theorem ofValue_value (m : Mapping) : ofValue m.value = .ok m.tables := by
  by_cases hempty : m.clauses = []
  · -- without any name the value counts as false
    have htables : m.tables = .empty := by
      rw [tables, Tables.empty]
      congr 1
      funext n
      rw [paths, hempty]
      rfl
    rw [htables, value, hempty]
    rfl
  · refine ofValue_object ?_ ?_ m.tableUnder_value
    · simpa using hempty
    · intro f hf
      simp only [List.map_map, List.mem_map] at hf
      obtain ⟨c, -, rfl⟩ := hf
      exact ⟨c.1, rfl⟩

end Mapping

/-- A configuration describes the same tables as a text, with or without a comment behind it, and as a value: each table
has the normalised paths that are given for it. -/
theorem parse_chars_agrees (m : Mapping) (comment : Option Comment) (source : Value) :
    ∃ t u, parse (m.chars ++ commentChars comment) source = .ok t ∧ ofValue m.value = .ok u ∧
      t.listing = u.listing ∧ ∀ n, t.table n = .ofPaths (m.paths n) :=
  ⟨m.tables, m.tables, parse_mapping m comment source, m.ofValue_value, rfl, fun _ => rfl⟩

/-- A mapping with an empty list and with a path of characters that mean something to the reader. -/
def awkwardMapping : Mapping where
  clauses := [(.clockSource, ["a\\(;\"\n", "b::now"]), (.balanceRead, [])]
  distinct := by decide
  not_blank := by
    have hclock : ∀ path ∈ ["a\\(;\"\n", "b::now"], isPath path = true := by decide
    rw [List.forall_mem_cons, List.forall_mem_singleton]
    exact ⟨fun path h => isPath_iff.1 (hclock path h), fun path h => absurd h List.not_mem_nil⟩

def awkwardComment : Comment where
  blanks := [' ']
  text := [')', ' ', '"']
  blank := List.forall_mem_singleton.2 rfl
  one_line := by decide

def awkwardText : String := "(signatures (clock-source \"a\\\\(;\\\"\n\" \"b::now\") (balance-read)) ;) \""

theorem parse_chars_agrees_awkward :
    awkwardText.toList = awkwardMapping.chars ++ commentChars (some awkwardComment) ∧
    ∃ t u, parse awkwardText.toList (.ofString "clock") = .ok t ∧ ofValue awkwardMapping.value = .ok u ∧
      t.listing = u.listing := by
  have htext : awkwardText.toList = awkwardMapping.chars ++ commentChars (some awkwardComment) := rfl
  obtain ⟨t, u, ht, hu, hsame, -⟩ := parse_chars_agrees awkwardMapping (some awkwardComment) (.ofString "clock")
  exact ⟨htext, t, u, htext ▸ ht, hu, hsame⟩

end Signature

end ContractLint
