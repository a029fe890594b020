import ContractLint.Proofs.Analysis.References
import ContractLint.Proofs.Reentrancy.Simulation

/-! Detectors do not interfere. A visit may be made in one pass that shows each instruction to all enabled detectors in
turn, and the report is then put together from what each detector finds by itself. So the finding of a detector hangs
on the function and on the tables that it uses, whatever else is enabled and whatever the other tables hold. -/

namespace ContractLint

open Outcome

/-! ### One pass for all detectors -/

/-- The detectors of a visit under way: the state of the reentrancy detector if it is enabled, and the enabled flags. -/
structure Watch where
  reentrancy : Option (Reentrancy Span)
  flags : List (FlagKind × Flag Span)

namespace Watch

/-- Records the span of an instruction with the flags whose tables have a path that it refers to. -/
def refer (tables : Tables) (span : Span) (flags : List (FlagKind × Flag Span)) (path : Text) :
    List (FlagKind × Flag Span) :=
  flags.map fun (k, f) => (k, if (tables.table k.table).entries.contains path then f.record span else f)

/-- Shows an instruction to the reentrancy detector, and its paths to the flags if there are any. -/
def feed (tables : Tables) (w : Watch) (x : Int × Item) : Except PathError Watch := do
  let reentrancy := w.reentrancy.map fun r => r.observeAll tables (x.2.observations x.1)
  if w.flags.isEmpty then return { w with reentrancy }
  return ⟨reentrancy, (← x.2.references).foldl (refer tables x.2.span) w.flags⟩

def findings (tables : Tables) (w : Watch) : List Finding :=
  (w.reentrancy.map (·.finding tables)).toList ++ w.flags.map fun (k, f) => f.finding k

end Watch

namespace Checker

/-- The enabled detectors before the first instruction. -/
def watch (c : Checker) : Watch where
  reentrancy := if .reentrancy ∈ c.enabled then some {} else none
  flags := c.flags.map fun k => (k, {})

/-- Visits a function in one pass. -/
def pass (c : Checker) (body : Body) : Except PathError Report := do
  let w ← body.visited.foldlM (Watch.feed c.tables) c.watch
  return ⟨body.name, w.findings c.tables⟩

end Checker

theorem Table.referencesIn_append (t : Table) (references references' : List (Span × List Text)) :
    t.referencesIn (references ++ references') = t.referencesIn references ++ t.referencesIn references' := by
  rw [referencesIn, List.filter_append, List.map_append]
  rfl

/-- What a flag makes of one instruction. -/
theorem Table.foldl_referencesIn (t : Table) (span : Span) (paths : List Text) (f : Flag Span) :
    (t.referencesIn [(span, paths)]).foldl Flag.record f =
      if paths.any t.entries.contains then f.record span else f := by
  rw [referencesIn, List.filter_cons]
  split_ifs <;> rfl

namespace Watch

/-- Shows references to the flags, each to those whose table it refers to. -/
def note (tables : Tables) (references : List (Span × List Text)) (flags : List (FlagKind × Flag Span)) :
    List (FlagKind × Flag Span) :=
  flags.map fun (k, f) => (k, ((tables.table k.table).referencesIn references).foldl Flag.record f)

variable (tables : Tables)

theorem note_nil (flags : List (FlagKind × Flag Span)) : note tables [] flags = flags :=
  List.map_id flags

theorem note_append (references references' : List (Span × List Text)) (flags : List (FlagKind × Flag Span)) :
    note tables (references ++ references') flags = note tables references' (note tables references flags) := by
  simp only [note, List.map_map, Table.referencesIn_append, List.foldl_append, Function.comp_def]

theorem note_ne_nil (references : List (Span × List Text)) {flags : List (FlagKind × Flag Span)} (h : flags ≠ []) :
    note tables references flags ≠ [] :=
  mt List.map_eq_nil_iff.1 h

/-- Of several paths in one instruction, the first that is in the table of a flag raises it and the others do no
more. -/
theorem foldl_refer (span : Span) (paths : List Text) (flags : List (FlagKind × Flag Span)) :
    paths.foldl (refer tables span) flags = note tables [(span, paths)] flags := by
  have htwice (f : Flag Span) : (f.record span).record span = f.record span := by
    cases h : f.raisedAt <;> simp [Flag.record, h]
  induction paths generalizing flags with
  | nil => exact (note_nil tables flags).symm
  | cons path paths ih =>
    rw [List.foldl_cons, ih, refer, note, note, List.map_map]
    congr 1
    funext x
    obtain ⟨k, f⟩ := x
    by_cases hpath : (tables.table k.table).entries.contains path = true <;>
      by_cases hpaths : paths.any (tables.table k.table).entries.contains = true <;>
        simp only [Function.comp, Table.foldl_referencesIn, List.any_cons, hpath, hpaths, Bool.or_true, Bool.or_false,
          Bool.or_self, if_true, Bool.false_eq_true, if_false, htwice]

/-- Without flags a pass is the run of the reentrancy detector, and it does not fail. -/
theorem foldlM_feed_of_nil (reentrancy : Option (Reentrancy Span)) (xs : List (Int × Item)) :
    xs.foldlM (feed tables) ⟨reentrancy, []⟩ =
      .ok ⟨reentrancy.map (·.observeAll tables (xs.flatMap fun x => x.2.observations x.1)), []⟩ := by
  induction xs generalizing reentrancy with
  | nil => cases reentrancy <;> rfl
  | cons x xs ih =>
    have hfeed : feed tables ⟨reentrancy, []⟩ x =
        .ok ⟨reentrancy.map (·.observeAll tables (x.2.observations x.1)), []⟩ := rfl
    rw [List.foldlM_cons, hfeed]
    refine (ih _).trans ?_
    rw [Option.map_map, List.flatMap_cons]
    simp only [Reentrancy.observeAll_append, Function.comp_def]

theorem feed_of_ne_nil (reentrancy : Option (Reentrancy Span)) {flags : List (FlagKind × Flag Span)} (h : flags ≠ [])
    (x : Int × Item) :
    feed tables ⟨reentrancy, flags⟩ x =
      (readUse (x.2.span, x.2.paths)).map fun r =>
        ⟨reentrancy.map (·.observeAll tables (x.2.observations x.1)), note tables [r] flags⟩ := by
  have hempty : flags.isEmpty = false := by simpa using h
  have hread : readUse (x.2.span, x.2.paths) = x.2.references >>= fun paths => pure (x.2.span, paths) := rfl
  rw [hread]
  simp only [feed, hempty, Bool.false_eq_true, if_false, foldl_refer]
  cases x.2.references <;> rfl

/-- With flags, each of them goes through the references to its table, and the pass fails where a path is none. -/
theorem foldlM_feed_of_ne_nil (reentrancy : Option (Reentrancy Span)) {flags : List (FlagKind × Flag Span)}
    (h : flags ≠ []) (xs : List (Int × Item)) :
    xs.foldlM (feed tables) ⟨reentrancy, flags⟩ =
      (xs.mapM fun x => readUse (x.2.span, x.2.paths)).map fun references =>
        ⟨reentrancy.map (·.observeAll tables (xs.flatMap fun x => x.2.observations x.1)),
          note tables references flags⟩ := by
  induction xs generalizing reentrancy flags with
  | nil =>
    rw [List.foldlM_nil, List.mapM_nil]
    cases reentrancy <;> simp [Reentrancy.observeAll, note_nil, pure, Except.pure, Except.map]
  | cons x xs ih =>
    rw [List.foldlM_cons, feed_of_ne_nil tables reentrancy h, List.mapM_cons]
    cases readUse (x.2.span, x.2.paths) with
    | error e => rfl
    | ok r =>
      refine (ih _ (note_ne_nil tables [r] h)).trans ?_
      rw [Option.map_map, List.flatMap_cons]
      simp only [Reentrancy.observeAll_append, Function.comp_def]
      cases xs.mapM fun x => readUse (x.2.span, x.2.paths) with
      | error e => rfl
      | ok references =>
        simp only [Except.map, ← note_append]
        rfl

end Watch

theorem Body.mapM_visited (body : Body) :
    (body.visited.mapM fun x => readUse (x.2.span, x.2.paths)) = body.references := by
  have hitems : List.Forall₂ (fun x item => readUse (x.2.span, x.2.paths) = readUse (item.span, item.paths))
      body.visited body.items := by
    rw [← body.map_snd_visited, List.forall₂_map_right_iff, List.forall₂_same]
    exact fun _ _ => rfl
  exact mapM_congr_of_forall₂ hitems

/-- One pass that shows each instruction to all detectors gives the report that is put together from each of them. -/
theorem Checker.pass_eq_visit (c : Checker) (body : Body) : c.pass body = c.visit body := by
  have hobservations : (body.visited.flatMap fun x => x.2.observations x.1) = body.observations :=
    body.flatMap_visited _
  have hreentrancy : ((c.watch.reentrancy.map (·.observeAll c.tables body.observations)).map
      (·.finding c.tables)).toList = c.reentrancyFindings body := by
    rw [watch, reentrancyFindings]
    split_ifs <;> rfl
  by_cases hflags : c.flags = []
  · have hwatch : c.watch = ⟨c.watch.reentrancy, []⟩ := by simp only [watch, hflags, List.map_nil]
    have hfindings : c.flagFindings body = .ok [] := by rw [flagFindings, hflags, List.isEmpty_nil, if_pos rfl]
    rw [pass, hwatch, Watch.foldlM_feed_of_nil, hobservations, visit, hfindings, ← hreentrancy]
    rfl
  · have hne : (c.flags.map fun k => (k, ({} : Flag Span))) ≠ [] := mt List.map_eq_nil_iff.1 hflags
    have hwatch : c.watch = ⟨c.watch.reentrancy, c.flags.map fun k => (k, {})⟩ := rfl
    rw [pass, hwatch, Watch.foldlM_feed_of_ne_nil c.tables _ hne, hobservations, body.mapM_visited, visit, flagFindings,
      if_neg (mt List.isEmpty_iff.1 hflags)]
    cases body.references with
    | error e => rfl
    | ok references =>
      have hfindings : (Watch.note c.tables references (c.flags.map fun k => (k, {}))).map (fun (k, f) => f.finding k) =
          c.flags.map (c.flagFinding references) := by
        rw [Watch.note, List.map_map, List.map_map]
        rfl
      simp only [Except.map, bind, Except.bind, pure, Except.pure, Watch.findings, hreentrancy, hfindings]

/-! ### Each detector by itself -/

/-- The tables that a detector uses. -/
def DetectorKind.tables : DetectorKind → List TableName
  | .reentrancy => [.balanceRead, .valueTransfer]
  | .badRandomness => [.randomnessSource]
  | .timeManipulation => [.clockSource]
  | .numericalPrecision => [.roundingFunction]

theorem Table.covers_congr {t t' : Table} (h : ∀ path, path ∈ t.entries ↔ path ∈ t'.entries) :
    t.covers = t'.covers := by
  funext callee
  rw [covers, covers, contains_congr h]

namespace Checker

/-- What a detector finds in a function whose instructions have the given references. -/
def findingOf (c : Checker) (body : Body) (references : List (Span × List Text)) (k : DetectorKind) : Finding :=
  match FlagKind.ofDetector? k with
  | some f => c.flagFinding references f
  | none => (Reentrancy.observeAll c.tables {} body.observations).finding c.tables

theorem kind_findingOf (c : Checker) (body : Body) (references : List (Span × List Text)) (k : DetectorKind) :
    (c.findingOf body references k).kind = k := by
  cases k <;> rfl

/-- What is said of the kinds of findings is said of the detectors. -/
theorem comp_kind_findingOf {α : Type} (c : Checker) (body : Body) (references : List (Span × List Text))
    (p : DetectorKind → α) : (fun x : Finding => p x.kind) ∘ c.findingOf body references = p := by
  funext k
  rw [Function.comp, kind_findingOf]

theorem visit_of_references (c : Checker) {body : Body} {references : List (Span × List Text)}
    (h : body.references = .ok references) :
    c.visit body =
      .ok ⟨body.name, (DetectorKind.all.filter (· ∈ c.enabled)).map (c.findingOf body references)⟩ := by
  have hflags : c.flagFindings body = .ok (c.flags.map (c.flagFinding references)) := by
    rw [flagFindings, h]
    split_ifs with hempty
    · rw [List.isEmpty_iff.1 hempty, List.map_nil]
    · rfl
  have hall : DetectorKind.all = .reentrancy :: FlagKind.all.map FlagKind.detector := rfl
  have hfindings : (c.flags.map FlagKind.detector).map (c.findingOf body references) =
      c.flags.map (c.flagFinding references) := by
    rw [List.map_map]
    congr 1
    funext f
    cases f <;> rfl
  have hfilter : (FlagKind.all.map FlagKind.detector).filter (· ∈ c.enabled) = c.flags.map FlagKind.detector := by
    rw [List.filter_map]
    rfl
  rw [visit, hflags, hall, List.filter_cons, hfilter, reentrancyFindings]
  by_cases hon : .reentrancy ∈ c.enabled
  · simp only [hon, decide_true, if_true, List.map_cons, hfindings]
    rfl
  · simp only [hon, decide_false, Bool.false_eq_true, if_false, hfindings]
    rfl

theorem finding?_of_references (c : Checker) {body : Body} {references : List (Span × List Text)} {report : Report}
    (h : body.references = .ok references) (hreport : c.visit body = .ok report) {k : DetectorKind}
    (on : k ∈ c.enabled) : report.finding? k = some (c.findingOf body references k) := by
  rw [c.visit_of_references h, Except.ok.injEq] at hreport
  subst hreport
  have hfind : (DetectorKind.all.filter (· ∈ c.enabled)).find? (· = k) = some k := by
    rw [List.find?_filter]
    cases k <;> simp [DetectorKind.all, on]
  rw [Report.finding?, List.find?_map, c.comp_kind_findingOf body references fun j => decide (j = k), hfind, Option.map_some]

theorem finding_congr_tables {tables tables' : Tables}
    (hread : (tables.table .balanceRead).covers = (tables'.table .balanceRead).covers)
    (htransfer : (tables.table .valueTransfer).covers = (tables'.table .valueTransfer).covers) (body : Body) :
    (Reentrancy.observeAll tables {} body.observations).finding tables =
      (Reentrancy.observeAll tables' {} body.observations).finding tables' := by
  have hmatch (i : Item) : i.Matches tables tables' Eq i := by
    refine .of_eq rfl (by rw [htransfer]) ?_ fun p => ?_
    · rw [Item.read?, Item.read?, hread]
    · unfold Reentrancy.writesBalance
      rw [hread]
  have hvisits : Body.VisitsMatch tables tables' Eq id body body :=
    List.forall₂_same.2 fun x _ => ⟨rfl, hmatch x.2⟩
  exact hvisits.finding body.increasing_id

/-- Tables with the same entries where a detector looks make it find the same. -/
theorem findingOf_congr {c c' : Checker} {k : DetectorKind}
    (same : ∀ n ∈ k.tables, ∀ path, path ∈ (c.tables.table n).entries ↔ path ∈ (c'.tables.table n).entries)
    (body : Body) (references : List (Span × List Text)) :
    c.findingOf body references k = c'.findingOf body references k := by
  cases k with
  | reentrancy =>
    exact finding_congr_tables (Table.covers_congr (same _ (.head _))) (Table.covers_congr (same _ (.tail _ (.head _)))) body
  | badRandomness => exact flagFinding_congr (same _ (.head _)) references
  | timeManipulation => exact flagFinding_congr (same _ (.head _)) references
  | numericalPrecision => exact flagFinding_congr (same _ (.head _)) references

/-- Detectors do not interfere. In a report, which is also that of one pass that shows each instruction to all enabled
detectors, a detector has the same finding as in the report of any other checker that enables it and has the same entries
in the tables that it uses. The findings are those of a checker that enables everything, less those of the detectors that
are off: one for each enabled detector, in the order of the kinds. -/
theorem visit_isolated (c c' : Checker) (body : Body)
    (texts : ∀ path ∈ body.constantPaths, path = .null ∨ ∃ s, path = .string s) :
    ∃ report report' full, c.pass body = .ok report ∧ c.visit body = .ok report ∧ c'.visit body = .ok report' ∧
      visit ⟨c.tables, DetectorKind.all⟩ body = .ok full ∧
      (∀ k ∈ c.enabled, k ∈ c'.enabled →
        (∀ n ∈ k.tables, ∀ path, path ∈ (c.tables.table n).entries ↔ path ∈ (c'.tables.table n).entries) →
        ∃ x, report.finding? k = some x ∧ report'.finding? k = some x) ∧
      report.findings = full.findings.filter (·.kind ∈ c.enabled) ∧
      report.findings.map (·.kind) = DetectorKind.all.filter (· ∈ c.enabled) := by
  obtain ⟨references, hreferences⟩ := body.exists_references_of_texts texts
  have hvisit (c : Checker) := c.visit_of_references hreferences
  refine ⟨_, _, _, (c.pass_eq_visit body).trans (hvisit c), hvisit c, hvisit c', hvisit _, ?_, ?_, ?_⟩
  · intro k on on' same
    refine ⟨c.findingOf body references k, c.finding?_of_references hreferences (hvisit c) on, ?_⟩
    rw [findingOf_congr same]
    exact c'.finding?_of_references hreferences (hvisit c') on'
  · have hfindingOf : findingOf ⟨c.tables, DetectorKind.all⟩ body references = c.findingOf body references := rfl
    have hall : DetectorKind.all.filter (· ∈ DetectorKind.all) = DetectorKind.all := rfl
    rw [hall, hfindingOf, List.filter_map, c.comp_kind_findingOf body references fun k => decide (k ∈ c.enabled)]
  · have hkinds : (·.kind) ∘ c.findingOf body references = id := c.comp_kind_findingOf body references id
    rw [List.map_map, hkinds, List.map_id]

/-- A checker for the withdrawal alone, with tables that name `MAX` as a source of randomness too. -/
def ofWithdrawalOnly : Checker where
  tables := .ofEntries [(.valueTransfer, "pay"), (.balanceRead, "Map::get"), (.randomnessSource, "MAX")]
  enabled := [.timeManipulation, .reentrancy]

theorem visit_isolated_withdrawal :
    (∀ path ∈ withdrawal.constantPaths, path = .null ∨ ∃ s, path = .string s) ∧
    ∃ report report', ofWithdrawalOnly.visit withdrawal = .ok report ∧ ofWithdrawal.visit withdrawal = .ok report' ∧
      report.finding? .reentrancy = report'.finding? .reentrancy ∧
      report'.finding? .reentrancy = some ⟨.reentrancy, true, { lo := 10, hi := 50, line := 2 }⟩ ∧
      report.findings.map (·.kind) = [.reentrancy, .timeManipulation] := by
  have texts : ∀ path ∈ withdrawal.constantPaths, path = .null ∨ ∃ s, path = .string s := by
    have h : withdrawal.constantPaths = [.ofString "MAX", .null] := rfl
    rw [h]
    simp [Value.ofString]
  have same : ∀ n ∈ DetectorKind.reentrancy.tables,
      (ofWithdrawalOnly.tables.table n).entries = (ofWithdrawal.tables.table n).entries := by decide +kernel
  obtain ⟨report, report', -, -, hreport, hreport', -, hsame, -, hkinds⟩ :=
    visit_isolated ofWithdrawalOnly ofWithdrawal withdrawal texts
  obtain ⟨x, hx, hx'⟩ := hsame .reentrancy (by decide) (by decide) fun n hn path => by rw [same n hn]
  have hv : (ofWithdrawal.visit withdrawal).map (·.finding? .reentrancy) =
      .ok (some ⟨.reentrancy, true, { lo := 10, hi := 50, line := 2 }⟩) := by decide +kernel
  rw [hreport'] at hv
  exact ⟨texts, report, report', hreport, hreport', hx.trans hx'.symm, Except.ok.inj hv, hkinds⟩

end Checker

end ContractLint
