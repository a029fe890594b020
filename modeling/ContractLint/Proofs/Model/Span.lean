import Mathlib.Order.Bounds.Basic
import ContractLint.Model.Span

/-! Joins of spans. On spans whose byte positions are in order, joining is associative, and empty spans do not count
wherever they stand, although there are many of them. So a join of many spans is told by those that are not empty: it
reaches from the least position of any of them to the greatest, begins in the line and column of the first one with
that position, and is in the first file that is given. -/

namespace ContractLint.Span

/-- The byte positions are in order. -/
def Ranged (s : Span) : Prop := 0 ≤ s.lo ∧ s.lo ≤ s.hi

instance (s : Span) : Decidable s.Ranged := inferInstanceAs (Decidable (_ ∧ _))

theorem isEmpty_iff {s : Span} : s.isEmpty = true ↔ s.lo = 0 ∧ s.hi = 0 ∧ s.line = 0 := by
  simp [isEmpty, and_assoc]

variable {s t u : Span}

/-! ### Two spans -/

/-- The join of two spans that count. -/
theorem join_of_nonempty (hs : s.isEmpty = false) (ht : t.isEmpty = false) :
    s.join t =
      { file := if s.file.truthy then s.file else t.file
        lo := min s.lo t.lo
        hi := max s.hi t.hi
        line := if s.lo ≤ t.lo then s.line else t.line
        column := if s.lo ≤ t.lo then s.column else t.column } := by
  rw [join, if_neg (by simp [ht]), if_neg (by simp [hs])]
  split_ifs <;> rfl

/-- A join is one of the two spans if the other is empty. -/
theorem join_cases (s t : Span) :
    (t.isEmpty = true ∧ s.join t = s) ∨ (s.isEmpty = true ∧ t.isEmpty = false ∧ s.join t = t) ∨
      (s.isEmpty = false ∧ t.isEmpty = false) := by
  cases ht : t.isEmpty with
  | true => exact .inl ⟨rfl, join_of_isEmpty_right s ht⟩
  | false =>
    cases hs : s.isEmpty with
    | true => exact .inr (.inl ⟨rfl, rfl, join_of_isEmpty_left t hs ht⟩)
    | false => exact .inr (.inr ⟨rfl, rfl⟩)

theorem Ranged.join (hs : s.Ranged) (ht : t.Ranged) : (s.join t).Ranged := by
  rcases join_cases s t with ⟨-, hj⟩ | ⟨-, -, hj⟩ | ⟨hse, hte⟩
  · rwa [hj]
  · rwa [hj]
  · rw [join_of_nonempty hse hte]
    simp only [Ranged] at hs ht ⊢
    omega

/-- A join does not become empty again: if its positions are zero then so are those of both spans, and its line is
that of the left one. -/
theorem isEmpty_join (hs : s.Ranged) (ht : t.Ranged) : (s.join t).isEmpty = (s.isEmpty && t.isEmpty) := by
  rcases join_cases s t with ⟨hte, hj⟩ | ⟨hse, hte, hj⟩ | ⟨hse, hte⟩
  · rw [hj, hte, Bool.and_true]
  · rw [hj, hse, Bool.true_and]
  · rw [hse, Bool.false_and, ← Bool.not_eq_true, isEmpty_iff, join_of_nonempty hse hte]
    rw [← Bool.not_eq_true, isEmpty_iff] at hse
    simp only [Ranged] at hs ht ⊢
    rintro ⟨hlo, hhi, hline⟩
    rw [if_pos (by omega)] at hline
    omega

/-- Which of three starts is the first, a tie going to the left. -/
theorem leftmost_assoc {α : Type} (a b c : α) (x y z : Int) :
    (if min x y ≤ z then if x ≤ y then a else b else c) = if x ≤ min y z then a else if y ≤ z then b else c := by
  split_ifs <;> try rfl
  all_goals omega

theorem join_assoc (hs : s.Ranged) (ht : t.Ranged) (hu : u.Ranged) : (s.join t).join u = s.join (t.join u) := by
  rcases join_cases t u with ⟨hue, hj⟩ | ⟨hte, hue, hj⟩ | ⟨hte, hue⟩
  · rw [hj, join_of_isEmpty_right _ hue]
  · rw [hj, join_of_isEmpty_right _ hte]
  have htu : (t.join u).isEmpty = false := by rw [isEmpty_join ht hu, hte, Bool.false_and]
  cases hse : s.isEmpty with
  | true => rw [join_of_isEmpty_left _ hse hte, join_of_isEmpty_left _ hse htu]
  | false =>
    have hst : (s.join t).isEmpty = false := by rw [isEmpty_join hs ht, hse, Bool.false_and]
    rw [join_of_nonempty hst hue, join_of_nonempty hse htu, join_of_nonempty hse hte, join_of_nonempty hte hue]
    simp only [Span.mk.injEq, leftmost_assoc, and_self, and_true]
    refine ⟨?_, by omega, by omega⟩
    by_cases hsf : s.file.truthy = true
    · simp [hsf]
    · by_cases htf : t.file.truthy = true <;> simp [hsf, htf]

/-! ### Many spans -/

/-- The span `s` is put together from `spans`: from the least of their positions to the greatest, with the line and
column of the first that begins there, and in the first file that is given. If none is given then it is in the file of
one of them. -/
structure Covers (spans : List Span) (s : Span) : Prop where
  lo : IsLeast {p | p ∈ spans.map Span.lo} s.lo
  hi : IsGreatest {p | p ∈ spans.map Span.hi} s.hi
  start : ∃ first, spans.find? (·.lo = s.lo) = some first ∧ s.line = first.line ∧ s.column = first.column
  file : s.file ∈ spans.map Span.file ∧ ∀ f, (spans.map Span.file).find? Value.truthy = some f → s.file = f

theorem covers_singleton (s : Span) : Covers [s] s where
  lo := by simp [IsLeast, lowerBounds]
  hi := by simp [IsGreatest, upperBounds]
  start := ⟨s, by simp⟩
  file := by
    refine ⟨List.mem_cons_self, fun f hf => ?_⟩
    exact (List.mem_singleton.1 (List.mem_of_find?_eq_some hf)).symm

theorem isLeast_append {xs : List Int} {x : Int} (h : IsLeast {p | p ∈ xs} x) (y : Int) :
    IsLeast {p | p ∈ xs ++ [y]} (min x y) := by
  simp only [List.mem_append, List.mem_singleton]
  constructor
  · rcases Int.le_total x y with hle | hle
    · exact .inl (by rw [Int.min_eq_left hle]; exact h.1)
    · exact .inr (Int.min_eq_right hle)
  · rintro p (hp | rfl)
    · have := h.2 hp
      omega
    · omega

theorem isGreatest_append {xs : List Int} {x : Int} (h : IsGreatest {p | p ∈ xs} x) (y : Int) :
    IsGreatest {p | p ∈ xs ++ [y]} (max x y) := by
  simp only [List.mem_append, List.mem_singleton]
  constructor
  · rcases Int.le_total x y with hle | hle
    · exact .inr (Int.max_eq_right hle)
    · exact .inl (by rw [Int.max_eq_left hle]; exact h.1)
  · rintro p (hp | rfl)
    · have := h.2 hp
      omega
    · omega

namespace Covers

variable {spans : List Span}

/-- One more span moves the start if it begins before all others, and not if it begins with one of them. -/
theorem start_append (h : Covers spans s) (t : Span) :
    ∃ first, (spans ++ [t]).find? (·.lo = min s.lo t.lo) = some first ∧
      (if s.lo ≤ t.lo then s.line else t.line) = first.line ∧
      (if s.lo ≤ t.lo then s.column else t.column) = first.column := by
  rw [List.find?_append]
  by_cases hle : s.lo ≤ t.lo
  · obtain ⟨first, hfirst, hline, hcolumn⟩ := h.start
    simp only [Int.min_eq_left hle, hfirst, hle, if_true]
    exact ⟨first, rfl, hline, hcolumn⟩
  · have hmin : min s.lo t.lo = t.lo := by omega
    have hnone : spans.find? (·.lo = t.lo) = none := by
      rw [List.find?_eq_none]
      intro x hx heq
      have := h.lo.2 (List.mem_map_of_mem hx)
      rw [decide_eq_true_eq] at heq
      omega
    simp only [hmin, hnone, hle, if_false, Option.none_or]
    exact ⟨t, by simp, rfl, rfl⟩

/-- One more span gives the file if none has been given before. -/
theorem file_append (h : Covers spans s) (t : Span) :
    (if s.file.truthy then s.file else t.file) ∈ (spans ++ [t]).map Span.file ∧
      ∀ f, ((spans ++ [t]).map Span.file).find? Value.truthy = some f →
        (if s.file.truthy then s.file else t.file) = f := by
  rw [List.map_append, List.find?_append, List.map_singleton]
  cases hf : (spans.map Span.file).find? Value.truthy with
  | some f =>
    have hfile : s.file = f := h.file.2 f hf
    have htruthy : s.file.truthy = true := by
      rw [hfile]
      exact List.find?_some hf
    simp only [htruthy, if_true, Option.some_or, Option.some.injEq]
    exact ⟨List.mem_append_left _ h.file.1, fun g hg => hfile.trans hg⟩
  | none =>
    have hfalse : s.file.truthy = false := Bool.eq_false_iff.2 (List.find?_eq_none.1 hf _ h.file.1)
    simp only [hfalse, Bool.false_eq_true, if_false, Option.none_or]
    refine ⟨List.mem_append_right _ List.mem_cons_self, fun g hg => ?_⟩
    exact (List.mem_singleton.1 (List.mem_of_find?_eq_some hg)).symm

theorem join (h : Covers spans s) (hs : s.isEmpty = false) (ht : t.isEmpty = false) :
    Covers (spans ++ [t]) (s.join t) := by
  rw [join_of_nonempty hs ht]
  refine ⟨?_, ?_, h.start_append t, h.file_append t⟩
  · rw [List.map_append]
    exact isLeast_append h.lo t.lo
  · rw [List.map_append]
    exact isGreatest_append h.hi t.hi

/-- Joining goes on from a span that counts and is put together from `seen`. -/
theorem foldl {seen : List Span} (h : Covers seen s) (hs : s.isEmpty = false) (hsr : s.Ranged)
    (hspans : ∀ t ∈ spans, t.Ranged) : Covers (seen ++ spans.filter (!·.isEmpty)) (spans.foldl Span.join s) := by
  induction spans generalizing s seen with
  | nil => simpa using h
  | cons t spans ih =>
    rw [List.forall_mem_cons] at hspans
    rw [List.foldl_cons]
    cases ht : t.isEmpty with
    | true =>
      rw [join_of_isEmpty_right s ht, List.filter_cons_of_neg (by simp [ht])]
      exact ih h hs hsr hspans.2
    | false =>
      have hjoin : (s.join t).isEmpty = false := by rw [isEmpty_join hsr hspans.1, hs, Bool.false_and]
      rw [List.filter_cons_of_pos (by simp [ht]), List.append_cons]
      exact ih (h.join hs ht) hjoin (hsr.join hspans.1) hspans.2

end Covers

/-- Empty spans at the front are passed over, and the first span that counts is where the join begins. -/
theorem covers_foldl {start : Span} {spans : List Span} (hranged : ∀ s ∈ start :: spans, s.Ranged)
    (hcounts : ∃ s ∈ start :: spans, s.isEmpty = false) :
    Covers ((start :: spans).filter (!·.isEmpty)) (spans.foldl Span.join start) := by
  induction spans generalizing start with
  | nil =>
    obtain ⟨s, hs, hse⟩ := hcounts
    obtain rfl := List.mem_singleton.1 hs
    rw [List.filter_cons_of_pos (by simp [hse])]
    exact covers_singleton s
  | cons t spans ih =>
    rw [List.forall_mem_cons] at hranged
    cases hstart : start.isEmpty with
    | false =>
      rw [List.filter_cons_of_pos (by simp [hstart])]
      exact (covers_singleton start).foldl hstart hranged.1 hranged.2
    | true =>
      have hrest : ∃ s ∈ t :: spans, s.isEmpty = false := by simpa [hstart] using hcounts
      rw [List.filter_cons_of_neg (by simp [hstart]), List.foldl_cons]
      rcases join_cases start t with ⟨hte, hj⟩ | ⟨-, hte, hj⟩ | ⟨hse, -⟩
      · -- the start stays an empty span, and stands for `t` as well
        have hskip : (start :: spans).filter (!·.isEmpty) = (t :: spans).filter (!·.isEmpty) := by
          simp [hstart, hte]
        rw [hj, ← hskip]
        refine ih ?_ ?_
        · rw [List.forall_mem_cons]
          exact ⟨hranged.1, (List.forall_mem_cons.1 hranged.2).2⟩
        · simpa [hstart, hte] using hrest
      · rw [hj]
        exact ih hranged.2 hrest
      · rw [hstart] at hse
        cases hse

/-- On spans whose positions are in order, joining is associative. An empty span on either side leaves the other one if
that is not empty, and a join is empty only if both spans are. So many spans joined from the left, one of them not
empty, make the span that is put together from those that are not empty. -/
theorem join_covers :
    (∀ s t u : Span, s.Ranged → t.Ranged → u.Ranged → (s.join t).join u = s.join (t.join u)) ∧
    (∀ s t : Span, s.isEmpty = true → t.isEmpty = false → s.join t = t ∧ t.join s = t) ∧
    (∀ s t : Span, s.Ranged → t.Ranged →
      ((s.join t).isEmpty = false ↔ s.isEmpty = false ∨ t.isEmpty = false)) ∧
    ∀ start spans, (∀ s ∈ start :: spans, s.Ranged) → (∃ s ∈ start :: spans, s.isEmpty = false) →
      Covers ((start :: spans).filter (!·.isEmpty)) (spans.foldl Span.join start) := by
  refine ⟨fun s t u hs ht hu => join_assoc hs ht hu, fun s t hs ht => ?_, fun s t hs ht => ?_,
    fun start spans => covers_foldl⟩
  · exact ⟨join_of_isEmpty_left t hs ht, join_of_isEmpty_right t hs⟩
  · rw [isEmpty_join hs ht, Bool.and_eq_false_iff]

/-- Two spans that begin together, one of them in no file, among spans that are empty for all their columns and
files. -/
def tied : List Span :=
  [{ file := .ofString "a", lo := 0, hi := 0, column := 9 },
   { lo := 4, hi := 9, line := 2, column := 1 },
   { column := 7 },
   { file := .ofString "b", lo := 4, hi := 6, line := 3 },
   { file := .ofString "c", lo := 8, hi := 12, line := 4 }]

theorem join_covers_tied :
    (∀ s ∈ (.empty :: tied : List Span), s.Ranged) ∧ (∃ s ∈ (.empty :: tied : List Span), s.isEmpty = false) ∧
    (tied.foldl Span.join .empty).lo = 4 ∧ (tied.foldl Span.join .empty).line = 2 ∧
    (tied.foldl Span.join .empty).file = .ofString "b" := by
  have hranged : ∀ s ∈ (.empty :: tied : List Span), s.Ranged := by decide
  have hcounts : ∃ s ∈ (.empty :: tied : List Span), s.isEmpty = false := by decide
  have hcovers := join_covers.2.2.2 .empty tied hranged hcounts
  have hlo : (tied.foldl Span.join .empty).lo = 4 := by decide
  refine ⟨hranged, hcounts, hlo, ?_, hcovers.file.2 _ rfl⟩
  obtain ⟨first, hfirst, hline, -⟩ := hcovers.start
  rw [hlo] at hfirst
  obtain rfl := Option.some.inj hfirst
  exact hline

end ContractLint.Span
