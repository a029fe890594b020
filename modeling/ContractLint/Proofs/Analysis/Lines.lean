import Mathlib.Data.List.Forall2
import ContractLint.Analysis.Results
import ContractLint.Proofs.Json.RoundTrip

/-! Diagnostics as lines of JSON. Whatever strings stand as the names, files and messages of an analysis, its lines are
ASCII with one line for each diagnostic, in order, and each line is read back as what it was written for, with nothing
of the diagnostic lost. Integers are written within the limit on digits that the reader has as well. If there is one
with more digits then nothing is written at all. -/

namespace ContractLint

namespace Diagnostic

/-- The texts of a diagnostic are strings of characters. -/
structure IsPlain (d : Diagnostic) : Prop where
  file : ∃ s : String, d.location.file = .ofString s
  message : ∃ s : String, d.message = s
  function : ∃ s : String, d.function = s

/-- The object has what there is to tell of a diagnostic. The number of a weakness is left out if it is zero. -/
structure IsRecorded (d : Diagnostic) (v : Value) : Prop where
  file : v.get? "file" = some d.location.file
  line : v.get? "linenr" = some (.int d.location.line)
  column : v.get? "column" = some (.int d.location.column)
  lo : v.get? "lo" = some (.int d.location.lo)
  hi : v.get? "hi" = some (.int d.location.hi)
  severity : v.get? "severity" = some (.ofString d.severity.text)
  message : v.get? "message" = some (.string d.message)
  errorId : v.get? "errorId" = some (.ofString d.errorId)
  function : v.get? "function" = some (.string d.function)
  cwe : v.get? "cwe" = if d.cwe = 0 then none else some (.int d.cwe)

theorem isRecorded_toValue (d : Diagnostic) : d.IsRecorded d.toValue := by
  have hcwe : Assoc.get? (if (Value.int d.cwe).truthy then [("cwe", Value.int d.cwe)] else []) "cwe" =
      if d.cwe = 0 then none else some (.int d.cwe) := by
    by_cases h : d.cwe = 0 <;> simp [Value.truthy, h, Assoc.get?]
  constructor <;> simp [toValue, Notice.toValue, notice, Span.raw, Assoc.get?]
  exact hcwe

/-- The numbers that are written of a diagnostic. -/
def integers (d : Diagnostic) : List Int :=
  [d.location.line, d.location.column, d.location.lo, d.location.hi, d.cwe]

theorem plain_toValue {limit : Option Nat} {d : Diagnostic} (hplain : d.IsPlain)
    (hfits : ∀ n ∈ d.integers, Json.Fits limit n) : Json.Plain limit d.toValue := by
  obtain ⟨⟨file, hfile⟩, ⟨message, hmessage⟩, ⟨function, hfunction⟩⟩ := hplain
  simp only [integers, List.mem_cons, List.not_mem_nil, or_false, forall_eq_or_imp, forall_eq] at hfits
  obtain ⟨hline, hcolumn, hlo, hhi, hcwe⟩ := hfits
  -- the number of the weakness comes last, or not at all
  refine .record ?_ ?_
  · split <;> simp
  · simp only [List.forall_mem_append, List.forall_mem_cons, notice, Span.raw, hfile, hmessage, hfunction]
    refine ⟨⟨.string file, .int hline, .int hcolumn, .int hlo, .int hhi, .string _, .string message, .string _,
      .string function, by simp⟩, ?_⟩
    split
    · exact List.forall_mem_singleton.2 (.int hcwe)
    · simp

theorem mem_integersIn_toValue {d : Diagnostic} {n : Int} (hn : n ∈ d.integers) (hzero : n ≠ 0) :
    n ∈ Json.integersIn d.toValue := by
  simp only [integers, List.mem_cons, List.not_mem_nil, or_false] at hn
  rcases hn with rfl | rfl | rfl | rfl | rfl <;>
    simp [toValue, Notice.toValue, notice, Span.raw, Value.record, Json.integersIn, Json.integersInFields, Value.truthy,
      hzero]

theorem exists_jsonLine {d : Diagnostic} (hplain : d.IsPlain)
    (hfits : ∀ n ∈ d.integers, Json.Fits (some Number.maxDigits) n) :
    ∃ line, d.jsonLine = .ok line ∧ Json.Spells (some Number.maxDigits) d.toValue line.toList := by
  obtain ⟨cs, hcs⟩ := (plain_toValue hplain hfits).exists_spells
  refine ⟨String.ofList cs, ?_, by rwa [String.toList_ofList]⟩
  exact Outcome.map_eq_ok.2 ⟨cs, hcs.text_eq, rfl⟩

theorem refuses_jsonLine (d : Diagnostic) :
    Json.Refuses (some Number.maxDigits) (Json.integersIn d.toValue) d.jsonLine :=
  (Json.refuses_text _ d.toValue).map String.ofList

/-- A list of diagnostics is refused for the numbers of any of them. -/
theorem refuses_mapM_jsonLine (ds : List Diagnostic) :
    Json.Refuses (some Number.maxDigits) (ds.flatMap fun d => Json.integersIn d.toValue) (ds.mapM jsonLine) := by
  induction ds with
  | nil => exact .ok _
  | cons d ds ih =>
    rw [List.mapM_cons, List.flatMap_cons]
    exact d.refuses_jsonLine.map₂ ih List.cons

theorem exists_mapM_jsonLine {ds : List Diagnostic} (hplain : ∀ d ∈ ds, d.IsPlain)
    (hfits : ∀ d ∈ ds, ∀ n ∈ d.integers, Json.Fits (some Number.maxDigits) n) :
    ∃ lines, ds.mapM jsonLine = .ok lines ∧
      List.Forall₂ (fun line d => Json.parse line.toList = .ok d.toValue) lines ds ∧
      ∀ line ∈ lines, ∀ c ∈ line.toList, Json.IsVisible c := by
  induction ds with
  | nil => exact ⟨[], rfl, .nil, by simp⟩
  | cons d ds ih =>
    rw [List.forall_mem_cons] at hplain hfits
    obtain ⟨line, hline, hspells⟩ := exists_jsonLine hplain.1 hfits.1
    obtain ⟨lines, hlines, hparse, hvisible⟩ := ih hplain.2 hfits.2
    refine ⟨line :: lines, ?_, .cons hspells.reads.parseWithin_eq hparse,
      List.forall_mem_cons.2 ⟨hspells.visible, hvisible⟩⟩
    exact Outcome.mapM_eq_ok.2 (.cons hline (Outcome.mapM_eq_ok.1 hlines))

end Diagnostic

/-- Lines of printable ASCII bring in no other character than the breaks between them. -/
theorem mem_intercalate_of_isVisible {lines : List (List Char)} (h : ∀ line ∈ lines, ∀ c ∈ line, Json.IsVisible c) :
    ∀ c ∈ ['\n'].intercalate lines, c = '\n' ∨ Json.IsVisible c := by
  induction lines with
  | nil => simp
  | cons line lines ih =>
    have hline := h line List.mem_cons_self
    cases lines with
    | nil =>
      rw [List.intercalate_singleton]
      exact fun c hc => .inr (hline c hc)
    | cons next lines =>
      have hlines := ih fun l hl => h l (List.mem_cons_of_mem _ hl)
      simp only [List.intercalate_cons_cons, List.mem_append, List.mem_singleton]
      rintro c ((hc | rfl) | hc)
      exacts [.inr (hline c hc), .inl rfl, hlines c hc]

namespace Results

theorem jsonLines_of_mapM {r : Results} {lines : List String} (h : r.diagnostics.mapM Diagnostic.jsonLine = .ok lines) :
    ∃ whole, r.jsonLines = .ok whole ∧ whole.toList = ['\n'].intercalate (lines.map String.toList) := by
  refine ⟨_, Outcome.map_eq_ok.2 ⟨lines, h, rfl⟩, ?_⟩
  rw [String.toList_intercalate]
  simp

/-- A single number with too many digits leaves an analysis without lines. -/
theorem jsonLines_of_not_fits {r : Results} {d : Diagnostic} (hd : d ∈ r.diagnostics) {n : Int} (hn : n ∈ d.integers)
    (hlong : ¬ Json.Fits (some Number.maxDigits) n) : r.jsonLines = .error ⟨Number.maxDigits⟩ := by
  have hzero : n ≠ 0 := by
    rintro rfl
    refine hlong fun m hm => ?_
    cases hm
    decide
  have hmem : n ∈ r.diagnostics.flatMap fun d => Json.integersIn d.toValue :=
    List.mem_flatMap.2 ⟨d, hd, Diagnostic.mem_integersIn_toValue hn hzero⟩
  rcases Diagnostic.refuses_mapM_jsonLine r.diagnostics with ⟨-, hfits⟩ | ⟨⟨most, hmost, herror⟩, -⟩
  · exact absurd (hfits n hmem) hlong
  · cases hmost
    exact Outcome.map_eq_error.2 herror

/-- The lines of an analysis are ASCII, there is one for each diagnostic in order, and it is read back as the object
that is written of that diagnostic and has all of its fields. This takes numbers within the limit on digits; with any
other number there are no lines. -/
theorem parse_splitOn_jsonLines {r : Results} (hne : r.diagnostics ≠ []) (hplain : ∀ d ∈ r.diagnostics, d.IsPlain) :
    ((∀ d ∈ r.diagnostics, ∀ n ∈ d.integers, Json.Fits (some Number.maxDigits) n) →
      ∃ whole, r.jsonLines = .ok whole ∧ (∀ c ∈ whole.toList, c.toNat < 128) ∧
        List.Forall₂ (fun line d => Json.parse line = .ok d.toValue ∧ d.IsRecorded d.toValue)
          (whole.toList.splitOn '\n') r.diagnostics) ∧
    ((∃ d ∈ r.diagnostics, ∃ n ∈ d.integers, ¬ Json.Fits (some Number.maxDigits) n) →
      r.jsonLines = .error ⟨Number.maxDigits⟩) := by
  refine ⟨fun hfits => ?_, fun ⟨d, hd, n, hn, hlong⟩ => jsonLines_of_not_fits hd hn hlong⟩
  obtain ⟨lines, hlines, hparse, hvisible⟩ := Diagnostic.exists_mapM_jsonLine hplain hfits
  obtain ⟨whole, hwhole, htext⟩ := jsonLines_of_mapM hlines
  have hvisible : ∀ line ∈ lines.map String.toList, ∀ c ∈ line, Json.IsVisible c := List.forall_mem_map.2 hvisible
  have hbreak : ∀ line ∈ lines.map String.toList, '\n' ∉ line :=
    fun line hline hc => absurd (hvisible line hline _ hc) (by decide)
  have hsome : lines.map String.toList ≠ [] := by
    rw [Ne, List.map_eq_nil_iff, ← List.length_eq_zero_iff, hparse.length_eq, List.length_eq_zero_iff]
    exact hne
  refine ⟨whole, hwhole, ?_, ?_⟩
  · intro c hc
    rw [htext] at hc
    rcases mem_intercalate_of_isVisible hvisible c hc with rfl | hc
    · decide
    · exact Nat.lt_trans hc.2 (by decide)
  · rw [htext, List.splitOn_intercalate '\n' hbreak hsome, List.forall₂_map_left_iff]
    exact hparse.imp fun _ d hd => ⟨hd, d.isRecorded_toValue⟩

/-- Two diagnostics with breaks, quotes, escapes and characters of all planes in their texts, and with numbers of
either sign. -/
def awkward : Results where
  diagnostics := [
    { errorId := "reentrancy"
      message := "'\"\\\n\x01\x7f' \u00e9😀"
      severity := .error
      location := ⟨.ofString "a\r\nb\t\"c\".rs", -12345678901234567890123, 0, 7, -1⟩
      cwe := 841
      function := "f\n\\u000a\ufffe𝄞" },
    { errorId := ""
      message := "/\x08\x0c"
      severity := .style
      function := "\n" }]

theorem parse_splitOn_jsonLines_awkward :
    awkward.diagnostics ≠ [] ∧ (∀ d ∈ awkward.diagnostics, d.IsPlain) ∧
      ∃ whole, awkward.jsonLines = .ok whole ∧ (∀ c ∈ whole.toList, c.toNat < 128) ∧
        List.Forall₂ (fun line d => Json.parse line = .ok d.toValue ∧ d.IsRecorded d.toValue)
          (whole.toList.splitOn '\n') awkward.diagnostics := by
  have hne : awkward.diagnostics ≠ [] := by simp [awkward]
  have hplain : ∀ d ∈ awkward.diagnostics, d.IsPlain := by
    simp only [awkward, List.forall_mem_cons, List.not_mem_nil, false_imp_iff, implies_true, and_true]
    exact ⟨⟨⟨_, rfl⟩, ⟨_, rfl⟩, ⟨_, rfl⟩⟩, ⟨"", rfl⟩, ⟨_, rfl⟩, ⟨_, rfl⟩⟩
  have hfits : ∀ d ∈ awkward.diagnostics, ∀ n ∈ d.integers, Json.Fits (some Number.maxDigits) n := by
    have hshort : ∀ d ∈ awkward.diagnostics, ∀ n ∈ d.integers, (Json.digitsOf n).length ≤ Number.maxDigits := by
      decide
    intro d hd n hn m hm
    cases hm
    exact hshort d hd n hn
  exact ⟨hne, hplain, (parse_splitOn_jsonLines hne hplain).1 hfits⟩

/-- One diagnostic whose line number has one digit more than the limit. -/
def farDown : Results where
  diagnostics := [
    { errorId := "badRandomness"
      message := "'f' relies on a predictable randomness source"
      severity := .warning
      location := ⟨.ofString "a.rs", 0, 0, (Nat.pow 10 Number.maxDigits : Nat), 0⟩
      cwe := 330
      function := "f" }]

/-- It is read back from no line, as there are none. -/
theorem jsonLines_farDown :
    farDown.diagnostics ≠ [] ∧ (∀ d ∈ farDown.diagnostics, d.IsPlain) ∧
      farDown.jsonLines = .error ⟨Number.maxDigits⟩ := by
  refine ⟨List.cons_ne_nil _ _, ?_, ?_⟩
  · exact List.forall_mem_singleton.2 ⟨⟨_, rfl⟩, ⟨_, rfl⟩, ⟨_, rfl⟩⟩
  · exact jsonLines_of_not_fits (List.mem_singleton_self _) List.mem_cons_self (Json.not_fits_pow (by decide))

end Results

end ContractLint
