import Mathlib.Algebra.Ring.Nat
import Mathlib.Data.List.Perm.Basic
import ContractLint.Proofs.Analysis.Flags
import ContractLint.Proofs.Assoc
import ContractLint.Proofs.Reentrancy.Simulation

/-! The results of a run as an account of its functions. Reports, diagnostics, the lists of the detectors and the counts
are kept side by side while the functions are visited; they are all views of the findings, so that nothing is lost,
counted twice or filed under another detector. -/

namespace ContractLint

open Outcome

/-! ### Classes of a list -/

/-- The classes of a list by a key, put one after another, have the elements with these keys. -/
theorem flatMap_filter_perm {α κ : Type} [DecidableEq κ] (key : α → κ) (xs : List α) {keys : List κ}
    (hnodup : keys.Nodup) : (keys.flatMap fun k => xs.filter (key · = k)).Perm (xs.filter (key · ∈ keys)) := by
  induction keys with
  | nil => simp
  | cons k keys ih =>
    rw [List.nodup_cons] at hnodup
    have hfirst : (xs.filter (key · ∈ k :: keys)).filter (key · = k) = xs.filter (key · = k) := by
      rw [List.filter_filter]
      refine List.filter_congr fun x _ => ?_
      by_cases hx : key x = k <;> simp [hx]
    have hrest : (xs.filter (key · ∈ k :: keys)).filter (fun x => !decide (key x = k)) = xs.filter (key · ∈ keys) := by
      rw [List.filter_filter]
      refine List.filter_congr fun x _ => ?_
      by_cases hx : key x = k <;> simp [hx, hnodup.1]
    have hsplit := List.filter_append_perm (key · = k) (xs.filter (key · ∈ k :: keys))
    rw [hfirst, hrest] at hsplit
    rw [List.flatMap_cons]
    exact ((ih hnodup.2).append_left _).trans hsplit

/-- A list is made up of its classes by a key, if all keys are counted. -/
theorem flatMap_filter_perm_of_mem {α κ : Type} [DecidableEq κ] (key : α → κ) {xs : List α} {keys : List κ}
    (hnodup : keys.Nodup) (hmem : ∀ x ∈ xs, key x ∈ keys) :
    (keys.flatMap fun k => xs.filter (key · = k)).Perm xs := by
  have hall : xs.filter (key · ∈ keys) = xs := List.filter_eq_self.2 fun x hx => decide_eq_true (hmem x hx)
  have hperm := flatMap_filter_perm key xs hnodup
  rwa [hall] at hperm

/-! ### Findings and diagnostics -/

/-- The triggered findings of a report, each with the function that it is on. -/
def Report.hits (r : Report) : List (Text × Finding) :=
  (r.findings.filter (·.triggered)).map fun f => (r.function, f)

/-- What a diagnostic says of a finding: the function, the span and the detector, in the words of its rule. -/
structure Diagnostic.Tells (d : Diagnostic) (hit : Text × Finding) : Prop where
  function : d.function = hit.1
  location : d.location = hit.2.span
  detector : d.detector = hit.2.kind.text
  severity : d.severity = (Rule.ofKind hit.2.kind).severity
  message : d.message = (Rule.ofKind hit.2.kind).message hit.1
  errorId : d.errorId = (Rule.ofKind hit.2.kind).errorId
  cwe : d.cwe = (Rule.ofKind hit.2.kind).cwe
  confidence : d.confidence = (Rule.ofKind hit.2.kind).confidence

theorem Diagnostic.exists_tells {f : Finding} (h : f.triggered = true) (function : Text) :
    ∃ d, ofFinding? f function = some d ∧ d.Tells (function, f) := by
  rw [ofFinding?, if_pos h]
  exact ⟨_, rfl, ⟨rfl, rfl, rfl, rfl, rfl, rfl, rfl, rfl⟩⟩

/-- A report gives one diagnostic for each of its triggered findings, in order. -/
theorem Report.forall₂_diagnostics (r : Report) : List.Forall₂ (fun hit d => d.Tells hit) r.hits r.diagnostics := by
  obtain ⟨function, findings⟩ := r
  simp only [hits, diagnostics, positive]
  induction findings with
  | nil => exact .nil
  | cons f findings ih =>
    by_cases hf : f.triggered = true
    · obtain ⟨d, hd, htells⟩ := Diagnostic.exists_tells hf function
      rw [List.filter_cons_of_pos hf, List.map_cons, List.filterMap_cons, hd]
      exact .cons htells ih
    · rwa [List.filter_cons_of_neg hf]

theorem Diagnostic.Tells.mem_texts {d : Diagnostic} {hit : Text × Finding} (h : d.Tells hit) :
    d.detector ∈ DetectorKind.all.map DetectorKind.text := by
  rw [h.detector]
  exact List.mem_map_of_mem (DetectorKind.mem_all _)

theorem Rule.severity_eq_error_iff (kind : DetectorKind) : (ofKind kind).severity = .error ↔ kind = .reentrancy := by
  cases kind <;> decide

theorem Rule.severity_eq_warning_iff (kind : DetectorKind) :
    (ofKind kind).severity = .warning ↔ kind = .badRandomness ∨ kind = .timeManipulation := by
  cases kind <;> decide

/-! ### The results of reports -/

namespace Results

/-- The triggered findings of a run, each with the function that it is on. -/
def hits (r : Results) : List (Text × Finding) := r.reports.flatMap Report.hits

/-- Every view of a list of reports at once. -/
def ofReports (reports : List Report) : Results where
  reports := reports
  diagnostics := reports.flatMap Report.diagnostics
  byDetector := Assoc.grouped ((reports.flatMap Report.diagnostics).map fun d => (d.detector, d))
  functions := reports.length

theorem foldl_addDiagnostic (ds : List Diagnostic) (r : Results) :
    ds.foldl addDiagnostic r =
      { r with
        diagnostics := r.diagnostics ++ ds
        byDetector := (ds.map fun d => (d.detector, d)).foldl (fun m p => Assoc.push m p.1 p.2) r.byDetector } := by
  induction ds generalizing r with
  | nil => simp
  | cons d ds ih =>
    rw [List.foldl_cons, ih]
    simp [addDiagnostic]

/-- Adding reports to the views of earlier ones gives the views of all. -/
theorem foldl_addReport_ofReports (reports earlier : List Report) :
    reports.foldl addReport (ofReports earlier) = ofReports (earlier ++ reports) := by
  induction reports generalizing earlier with
  | nil => simp
  | cons report reports ih =>
    have hstep : addReport (ofReports earlier) report = ofReports (earlier ++ [report]) := by
      rw [addReport, foldl_addDiagnostic]
      simp [ofReports, Assoc.grouped]
    rw [List.foldl_cons, hstep, ih, List.append_assoc, List.singleton_append]

/-- The list under a detector has its diagnostics in order, and is empty if it has none. -/
theorem ofDetector_ofReports (reports : List Report) (detector : String) :
    (ofReports reports).ofDetector detector = (ofReports reports).diagnostics.filter (·.detector = detector) := by
  simp only [ofDetector, ofReports, Assoc.get?_grouped]
  generalize reports.flatMap Report.diagnostics = ds
  have hlist : ((ds.map fun d => (d.detector, d)).filter (·.1 = detector)).map Prod.snd =
      ds.filter (·.detector = detector) := by
    rw [List.filter_map, List.map_map]
    exact List.map_id _
  split_ifs with hmem
  · exact hlist
  · rw [Option.getD_none, eq_comm, List.filter_eq_nil_iff]
    intro d hd hdetector
    refine hmem (List.mem_map.2 ⟨(d.detector, d), List.mem_map_of_mem hd, ?_⟩)
    exact of_decide_eq_true hdetector

/-- One diagnostic for each triggered finding, in order. -/
theorem forall₂_diagnostics (reports : List Report) :
    List.Forall₂ (fun hit d => d.Tells hit) (ofReports reports).hits (ofReports reports).diagnostics := by
  refine List.rel_flatMap (List.forall₂_same.2 fun _ _ => rfl) ?_
  rintro r _ rfl
  exact r.forall₂_diagnostics

/-- The number of diagnostics of a severity is that of the triggered findings whose detector has it. -/
theorem length_withSeverity (reports : List Report) (severity : Severity) :
    ((ofReports reports).withSeverity severity).length =
      (ofReports reports).hits.countP fun hit => (Rule.ofKind hit.2.kind).severity = severity := by
  have hcount : List.Forall₂ (fun hit d => d.Tells hit)
      ((ofReports reports).hits.filter fun hit => (Rule.ofKind hit.2.kind).severity = severity)
      ((ofReports reports).diagnostics.filter (·.severity = severity)) :=
    forall₂_filter (forall₂_diagnostics reports) fun hit d htells => by rw [htells.severity]
  rw [List.countP_eq_length_filter, hcount.length_eq, withSeverity]

/-! ### The account -/

/-- The results account for functions as a checker sees them. -/
structure Accounts (c : Checker) (functions : List Body) (r : Results) : Prop where
  /-- There is one report for each function, the one that it gets by itself. -/
  reports : List.Forall₂ (fun body report => c.visit body = .ok report ∧ report.function = body.name)
    functions r.reports
  functions : r.functions = functions.length
  /-- There is one diagnostic for each triggered finding, function by function and in the order of the findings. -/
  diagnostics : List.Forall₂ (fun hit d => d.Tells hit) r.hits r.diagnostics
  /-- Each detector has its own diagnostics. -/
  detectors : ∀ detector, r.ofDetector detector = r.diagnostics.filter (·.detector = detector)
  total : r.totalCount = r.hits.length
  totalOfDetectors : r.totalCount = (DetectorKind.all.map fun kind => (r.ofDetector kind.text).length).sum
  errors : r.errorCount = r.hits.countP (·.2.kind = .reentrancy)
  warnings : r.warningCount = r.hits.countP fun hit => hit.2.kind = .badRandomness ∨ hit.2.kind = .timeManipulation
  /-- Every diagnostic has one severity. -/
  severities : (Severity.all.flatMap r.withSeverity).Perm r.diagnostics
  disjoint : ∀ s t, s ≠ t → (r.withSeverity s).Disjoint (r.withSeverity t)

/-- The results are those of two runs, one after the other. -/
structure Joins (r s : Results) (joined : Results) : Prop where
  reports : joined.reports = r.reports ++ s.reports
  functions : joined.functions = r.functions + s.functions
  diagnostics : joined.diagnostics = r.diagnostics ++ s.diagnostics
  detectors : ∀ detector, joined.ofDetector detector = r.ofDetector detector ++ s.ofDetector detector

theorem totalCount_eq_sum (reports : List Report) :
    (ofReports reports).totalCount =
      (DetectorKind.all.map fun kind => ((ofReports reports).ofDetector kind.text).length).sum := by
  have hmem : ∀ d ∈ (ofReports reports).diagnostics, d.detector ∈ DetectorKind.all.map DetectorKind.text := by
    have htells := (forall₂_diagnostics reports).flip.imp fun d hit h => And.intro h.mem_texts h
    exact ((List.forall₂_and_left _ _).1 htells).1
  have hperm := flatMap_filter_perm_of_mem Diagnostic.detector (by decide) hmem
  rw [totalCount, ← hperm.length_eq, List.length_flatMap, List.map_map]
  simp only [ofDetector_ofReports]
  rfl

theorem severities_perm (r : Results) : (Severity.all.flatMap r.withSeverity).Perm r.diagnostics :=
  flatMap_filter_perm_of_mem Diagnostic.severity (by decide) fun d _ => by cases d.severity <;> decide

theorem disjoint_withSeverity (r : Results) {s t : Severity} (h : s ≠ t) :
    (r.withSeverity s).Disjoint (r.withSeverity t) := by
  intro d hs ht
  rw [withSeverity, List.mem_filter, decide_eq_true_eq] at hs ht
  exact h (hs.2.symm.trans ht.2)

theorem joins_ofReports (reports reports' : List Report) :
    Joins (ofReports reports) (ofReports reports') (ofReports (reports ++ reports')) where
  reports := rfl
  functions := List.length_append
  diagnostics := List.flatMap_append
  detectors := by
    intro detector
    rw [ofDetector_ofReports, ofDetector_ofReports, ofDetector_ofReports, ← List.filter_append]
    exact congrArg (List.filter _) List.flatMap_append

end Results

namespace Checker

theorem function_of_visit {c : Checker} {body : Body} {report : Report} (h : c.visit body = .ok report) :
    report.function = body.name := by
  obtain ⟨findings, -, hreport⟩ := bind_eq_ok.1 h
  obtain rfl := pure_eq_ok.1 hreport
  rfl

/-- A run collects the reports on its functions. -/
theorem run_eq_ofReports (c : Checker) (functions : List Body) :
    c.run functions = (functions.mapM c.visit).map Results.ofReports := by
  have hcollect : (fun reports : List Report => reports.foldl Results.addReport {}) = Results.ofReports := by
    funext reports
    exact Results.foldl_addReport_ofReports reports []
  rw [run_eq, hcollect]

theorem accounts_ofReports {c : Checker} {functions : List Body} {reports : List Report}
    (h : functions.mapM c.visit = .ok reports) : (Results.ofReports reports).Accounts c functions where
  reports := (mapM_eq_ok.1 h).imp fun _ _ hvisit => ⟨hvisit, function_of_visit hvisit⟩
  functions := (mapM_eq_ok.1 h).length_eq.symm
  diagnostics := Results.forall₂_diagnostics reports
  detectors := Results.ofDetector_ofReports reports
  total := (Results.forall₂_diagnostics reports).length_eq.symm
  totalOfDetectors := Results.totalCount_eq_sum reports
  errors := by
    rw [Results.errorCount, Results.length_withSeverity]
    simp only [Rule.severity_eq_error_iff]
  warnings := by
    rw [Results.warningCount, Results.length_withSeverity]
    simp only [Rule.severity_eq_warning_iff]
  severities := Results.severities_perm _
  disjoint := fun _ _ => Results.disjoint_withSeverity _

/-- If every function of two lists can be visited, then their runs account for them: each report is that of the function
by itself, each triggered finding has its diagnostic, detectors and severities divide the diagnostics, and the counts are
those of the findings. A run of both lists has the results of the two runs, one after the other. -/
theorem run_accounts (c : Checker) (fs gs : List Body) (hfs : ∀ body ∈ fs, ∃ report, c.visit body = .ok report)
    (hgs : ∀ body ∈ gs, ∃ report, c.visit body = .ok report) :
    ∃ r s joined, c.run fs = .ok r ∧ c.run gs = .ok s ∧ c.run (fs ++ gs) = .ok joined ∧
      r.Accounts c fs ∧ r.Joins s joined := by
  obtain ⟨reports, hreports⟩ := exists_mapM_ok.2 hfs
  obtain ⟨reports', hreports'⟩ := exists_mapM_ok.2 hgs
  have hboth : (fs ++ gs).mapM c.visit = .ok (reports ++ reports') :=
    mapM_eq_ok.2 (List.rel_append (mapM_eq_ok.1 hreports) (mapM_eq_ok.1 hreports'))
  refine ⟨.ofReports reports, .ofReports reports', .ofReports (reports ++ reports'), ?_, ?_, ?_,
    accounts_ofReports hreports, Results.joins_ofReports reports reports'⟩
  · rw [run_eq_ofReports, hreports, Except.map]
  · rw [run_eq_ofReports, hreports', Except.map]
  · rw [run_eq_ofReports, hboth, Except.map]

/-- A checker with tables for the withdrawal and for the draw. -/
def ofBoth : Checker where
  tables := .ofEntries [(.balanceRead, "Map::get"), (.valueTransfer, "pay"), (.randomnessSource, "rand::random")]

/-- Two functions of one name are counted as two. -/
theorem run_accounts_twice :
    (∀ body ∈ [withdrawal, draw], ∃ report, ofBoth.visit body = .ok report) ∧
    (∀ body ∈ [withdrawal], ∃ report, ofBoth.visit body = .ok report) ∧
    ∃ r s joined, ofBoth.run [withdrawal, draw] = .ok r ∧ ofBoth.run [withdrawal] = .ok s ∧
      ofBoth.run [withdrawal, draw, withdrawal] = .ok joined ∧ r.Accounts ofBoth [withdrawal, draw] ∧
      r.Joins s joined ∧ r.errorCount = 1 ∧ r.warningCount = 1 ∧ (joined.ofDetector "reentrancy").length = 2 := by
  have hwithdrawal : ∃ report, ofBoth.visit withdrawal = .ok report := by
    refine ofBoth.exists_visit_of_texts ?_
    have hpaths : withdrawal.constantPaths = [.ofString "MAX", .null] := rfl
    simp [hpaths, Value.ofString]
  have hdraw : ∃ report, ofBoth.visit draw = .ok report := by
    refine ofBoth.exists_visit_of_texts ?_
    have hpaths : draw.constantPaths = [.ofString "rand::random::<u64>", .null] := rfl
    simp [hpaths, Value.ofString]
  have hfs : ∀ body ∈ [withdrawal, draw], ∃ report, ofBoth.visit body = .ok report := by
    simp [hwithdrawal, hdraw]
  have hgs : ∀ body ∈ [withdrawal], ∃ report, ofBoth.visit body = .ok report := by
    simp [hwithdrawal]
  obtain ⟨r, s, joined, hr, hs, hjoined, haccounts, hjoins⟩ := run_accounts ofBoth _ _ hfs hgs
  have hr_counts : (ofBoth.run [withdrawal, draw]).map (fun r => (r.errorCount, r.warningCount)) = .ok (1, 1) := by
    decide +kernel
  have hr_detector : (ofBoth.run [withdrawal, draw]).map (fun r => (r.ofDetector "reentrancy").length) = .ok 1 := by
    decide +kernel
  have hs_detector : (ofBoth.run [withdrawal]).map (fun s => (s.ofDetector "reentrancy").length) = .ok 1 := by
    decide +kernel
  rw [hr, Except.map, Except.ok.injEq] at hr_counts hr_detector
  rw [hs, Except.map, Except.ok.injEq] at hs_detector
  obtain ⟨herrors, hwarnings⟩ := Prod.mk.inj hr_counts
  refine ⟨hfs, hgs, r, s, joined, hr, hs, hjoined, haccounts, hjoins, herrors, hwarnings, ?_⟩
  rw [hjoins.detectors, List.length_append, hr_detector, hs_detector]

end Checker

end ContractLint
