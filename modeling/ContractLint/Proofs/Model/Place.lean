import Mathlib.Data.List.Induction
import ContractLint.Model.Place
import ContractLint.Proofs.Json.Literals

/-! The text of a place tells it from every other place. It is taken apart from the outside: its last character says
whether a local, a round or a square bracket is outermost. Behind a round bracket a star belongs to a dereference, since
no place begins with one. The index of an element stands behind the last square bracket and the number of a field behind
the last point, since no integer has either. -/

namespace ContractLint

open Json (decimal decimal_eq)

/-! ### Integers -/

theorem decimal_injective {m n : Int} (h : decimal m = decimal n) : m = n := by
  -- what reading takes back from the digits depends on them alone
  have hread (k : Int) : Json.number none (decimal k) = .ok (.int k, []) := by
    have hfits : Json.Fits none k := by simp [Json.Fits]
    have hends : Json.Ends [] := by simp [Json.Ends]
    have hnumber := Json.number_decimal hfits hends
    rwa [List.append_nil] at hnumber
  have hboth := hread m
  rw [h, hread n] at hboth
  simpa using hboth.symm

theorem mem_decimal {n : Int} {c : Char} (h : c ∈ decimal n) : c = '-' ∨ c.isDigit = true := by
  rw [decimal_eq, List.mem_append] at h
  rcases h with h | h
  · left
    split at h
    · exact List.mem_singleton.1 h
    · cases h
  · right
    exact Nat.isDigit_of_mem_toDigits (by decide) (by decide) h

/-- What is neither a sign nor a digit stands in no integer. -/
theorem not_mem_decimal {c : Char} (hsign : c ≠ '-') (hdigit : c.isDigit = false) (n : Int) : c ∉ decimal n := by
  intro h
  rcases mem_decimal h with h | h
  · exact hsign h
  · rw [hdigit] at h
    cases h

theorem decimal_ne_nil (n : Int) : decimal n ≠ [] := by
  rw [decimal_eq, Json.digitsOf]
  intro h
  exact Nat.toDigits_ne_nil (List.append_eq_nil_iff.1 h).2

/-! ### One projection -/

/-- Two texts that are split at the last occurrence of a character have the same parts. -/
theorem append_cons_inj_of_last {c : Char} {xs ys us vs : List Char} (hu : c ∉ us) (hv : c ∉ vs)
    (h : xs ++ c :: us = ys ++ c :: vs) : xs = ys ∧ us = vs := by
  -- if one front were longer, the character would stand once more behind the shorter one
  have key : ∀ {zs us vs : List Char}, c ∉ us → c :: us = zs ++ c :: vs → zs = [] := by
    intro zs us vs hu h
    cases zs with
    | nil => rfl
    | cons d zs =>
      rw [List.cons_append, List.cons.injEq] at h
      exact absurd (by simp [h.2]) hu
  rcases List.append_eq_append_iff.1 h with ⟨zs, rfl, hzs⟩ | ⟨zs, rfl, hzs⟩
  · obtain rfl := key hu hzs
    exact ⟨(List.append_nil xs).symm, (List.cons.inj hzs).2⟩
  · obtain rfl := key hv hzs
    exact ⟨List.append_nil ys, (List.cons.inj hzs).2.symm⟩

namespace Projection

/-- The bracket that ends the text of a projection. -/
def closing : Projection → Char
  | .deref | .field _ => ')'
  | .index _ | .constantIndex _ => ']'

section Text

variable (s : String) (n : Int)

theorem toList_wrap_deref : (wrap s .deref).toList = '(' :: '*' :: s.toList ++ [')'] := by
  simp [wrap]

theorem toList_wrap_field : (wrap s (.field n)).toList = '(' :: (s.toList ++ '.' :: decimal n) ++ [')'] := by
  simp [wrap, decimal]

theorem toList_wrap_index : (wrap s (.index n)).toList = s.toList ++ '[' :: '_' :: decimal n ++ [']'] := by
  simp [wrap, decimal]

theorem toList_wrap_constantIndex : (wrap s (.constantIndex n)).toList = s.toList ++ '[' :: decimal n ++ [']'] := by
  simp [wrap, decimal]

theorem getLast?_wrap (step : Projection) : (wrap s step).toList.getLast? = some step.closing := by
  cases step with
  | deref => rw [toList_wrap_deref, List.getLast?_concat, closing]
  | field n => rw [toList_wrap_field, List.getLast?_concat, closing]
  | index n => rw [toList_wrap_index, List.getLast?_concat, closing]
  | constantIndex n => rw [toList_wrap_constantIndex, List.getLast?_concat, closing]

end Text

variable {s t : String}

/-- A text that begins as that of a place does, with a local or in round brackets. -/
def Opens (s : String) : Prop := ∃ c ∈ s.toList.head?, c = '_' ∨ c = '('

theorem opens_wrap (h : Opens s) (step : Projection) : Opens (wrap s step) := by
  obtain ⟨c, hc, hopen⟩ := h
  obtain ⟨cs, hcs⟩ := List.head?_eq_some_iff.1 hc
  cases step with
  | deref => exact ⟨'(', by rw [toList_wrap_deref]; rfl, .inr rfl⟩
  | field n => exact ⟨'(', by rw [toList_wrap_field]; rfl, .inr rfl⟩
  | index n => exact ⟨c, by rw [toList_wrap_index, hcs]; rfl, hopen⟩
  | constantIndex n => exact ⟨c, by rw [toList_wrap_constantIndex, hcs]; rfl, hopen⟩

/-- No place begins with the star of a dereference. -/
theorem wrap_deref_ne_wrap_field (ht : Opens t) (n : Int) : wrap s .deref ≠ wrap t (.field n) := by
  obtain ⟨c, hc, hopen⟩ := ht
  obtain ⟨cs, hcs⟩ := List.head?_eq_some_iff.1 hc
  intro h
  have htext := congrArg String.toList h
  rw [toList_wrap_deref, toList_wrap_field, hcs] at htext
  simp only [List.cons_append, List.cons.injEq, true_and] at htext
  rcases hopen with rfl | rfl
  · exact absurd htext.1 (by decide)
  · exact absurd htext.1 (by decide)

theorem wrap_deref_inj (h : wrap s .deref = wrap t .deref) : s = t := by
  have htext := congrArg String.toList h
  rw [toList_wrap_deref, toList_wrap_deref] at htext
  have hinner := (List.cons.inj (List.append_cancel_right htext)).2
  exact String.toList_inj.1 (List.cons.inj hinner).2

theorem wrap_field_inj {m n : Int} (h : wrap s (.field m) = wrap t (.field n)) : m = n ∧ s = t := by
  have htext := congrArg String.toList h
  rw [toList_wrap_field, toList_wrap_field] at htext
  have hsplit := (List.cons.inj (List.append_cancel_right htext)).2
  have hpoint (k : Int) : '.' ∉ decimal k := not_mem_decimal (by decide) (by decide) k
  obtain ⟨hs, hn⟩ := append_cons_inj_of_last (hpoint m) (hpoint n) hsplit
  exact ⟨decimal_injective hn, String.toList_inj.1 hs⟩

/-- The text in the last square brackets, if it has none itself, and the text in front of them are determined. -/
theorem subscript_inj {us vs : List Char} (hu : '[' ∉ us) (hv : '[' ∉ vs)
    (h : s.toList ++ '[' :: us ++ [']'] = t.toList ++ '[' :: vs ++ [']']) : us = vs ∧ s = t := by
  obtain ⟨hs, huv⟩ := append_cons_inj_of_last hu hv (List.append_cancel_right h)
  exact ⟨huv, String.toList_inj.1 hs⟩

theorem bracket_not_mem_decimal (n : Int) : '[' ∉ decimal n := not_mem_decimal (by decide) (by decide) n

theorem bracket_not_mem_slot (n : Int) : '[' ∉ '_' :: decimal n :=
  List.not_mem_cons_of_ne_of_not_mem (by decide) (bracket_not_mem_decimal n)

theorem wrap_index_inj {m n : Int} (h : wrap s (.index m) = wrap t (.index n)) : m = n ∧ s = t := by
  have htext := congrArg String.toList h
  rw [toList_wrap_index, toList_wrap_index] at htext
  obtain ⟨hlabel, hs⟩ := subscript_inj (bracket_not_mem_slot m) (bracket_not_mem_slot n) htext
  exact ⟨decimal_injective (List.cons.inj hlabel).2, hs⟩

theorem wrap_constantIndex_inj {m n : Int} (h : wrap s (.constantIndex m) = wrap t (.constantIndex n)) :
    m = n ∧ s = t := by
  have htext := congrArg String.toList h
  rw [toList_wrap_constantIndex, toList_wrap_constantIndex] at htext
  obtain ⟨hlabel, hs⟩ := subscript_inj (bracket_not_mem_decimal m) (bracket_not_mem_decimal n) htext
  exact ⟨decimal_injective hlabel, hs⟩

/-- The underscore of a local tells it from a constant. -/
theorem wrap_index_ne_wrap_constantIndex (m n : Int) : wrap s (.index m) ≠ wrap t (.constantIndex n) := by
  intro h
  have htext := congrArg String.toList h
  rw [toList_wrap_index, toList_wrap_constantIndex] at htext
  obtain ⟨hlabel, -⟩ := subscript_inj (bracket_not_mem_slot m) (bracket_not_mem_decimal n) htext
  have hslot : '_' ∈ decimal n := hlabel ▸ List.mem_cons_self
  exact not_mem_decimal (by decide) (by decide) n hslot

/-- The outermost projection is determined by the text, and so is the text inside it. -/
theorem wrap_inj {a b : Projection} (hs : Opens s) (ht : Opens t) (h : wrap s a = wrap t b) : a = b ∧ s = t := by
  have hclosing : a.closing = b.closing := by
    have hlast := getLast?_wrap s a
    rw [h, getLast?_wrap t b] at hlast
    exact (Option.some.inj hlast).symm
  cases a with
  | deref =>
    cases b with
    | deref => exact ⟨rfl, wrap_deref_inj h⟩
    | field n => exact absurd h (wrap_deref_ne_wrap_field ht n)
    | index n | constantIndex n => exact absurd hclosing (by simp [closing])
  | field m =>
    cases b with
    | deref => exact absurd h.symm (wrap_deref_ne_wrap_field hs m)
    | field n =>
      obtain ⟨rfl, hinner⟩ := wrap_field_inj h
      exact ⟨rfl, hinner⟩
    | index n | constantIndex n => exact absurd hclosing (by simp [closing])
  | index m =>
    cases b with
    | deref | field n => exact absurd hclosing (by simp [closing])
    | index n =>
      obtain ⟨rfl, hinner⟩ := wrap_index_inj h
      exact ⟨rfl, hinner⟩
    | constantIndex n => exact absurd h (wrap_index_ne_wrap_constantIndex m n)
  | constantIndex m =>
    cases b with
    | deref | field n => exact absurd hclosing (by simp [closing])
    | index n => exact absurd h.symm (wrap_index_ne_wrap_constantIndex n m)
    | constantIndex n =>
      obtain ⟨rfl, hinner⟩ := wrap_constantIndex_inj h
      exact ⟨rfl, hinner⟩

end Projection

/-! ### Places -/

namespace Place

open Projection

/-- Places are built from locals by one projection after another. -/
@[elab_as_elim]
theorem project_induction {P : Place → Prop} (slot : ∀ n, P ⟨n, []⟩) (project : ∀ p step, P p → P (p.project step))
    (p : Place) : P p := by
  obtain ⟨base, steps⟩ := p
  induction steps using List.reverseRecOn with
  | nil => exact slot base
  | append_singleton steps step ih => exact project ⟨base, steps⟩ step ih

theorem toList_text_slot (n : Int) : (text ⟨n, []⟩).toList = '_' :: decimal n := by
  simp [text, decimal]

theorem opens_text (p : Place) : Opens p.text := by
  induction p using project_induction with
  | slot n => exact ⟨'_', by rw [toList_text_slot]; rfl, .inl rfl⟩
  | project p step ih =>
    rw [text_project]
    exact opens_wrap ih step

/-- The text of a local ends in a digit, that of a projection in a bracket. -/
theorem text_slot_ne_wrap (n : Int) (s : String) (step : Projection) : text ⟨n, []⟩ ≠ wrap s step := by
  intro h
  have hlast := getLast?_wrap s step
  rw [← h, toList_text_slot, List.getLast?_cons, List.getLast?_eq_some_getLast (decimal_ne_nil n), Option.getD_some,
    Option.some.injEq] at hlast
  have hmem : step.closing ∈ decimal n := hlast ▸ List.getLast_mem (decimal_ne_nil n)
  apply not_mem_decimal ?_ ?_ n hmem
  · cases step <;> simp [closing]
  · cases step <;> rfl

/-- Places with the same text are the same, at whatever depth their projections are nested. -/
theorem text_eq_text_iff {p q : Place} : p.text = q.text ↔ p = q := by
  refine ⟨fun h => ?_, congrArg text⟩
  induction p using project_induction generalizing q with
  | slot m =>
    induction q using project_induction with
    | slot n =>
      have htext := congrArg String.toList h
      rw [toList_text_slot, toList_text_slot] at htext
      rw [decimal_injective (List.cons.inj htext).2]
    | project q b _ => exact absurd (text_project q b ▸ h) (text_slot_ne_wrap m q.text b)
  | project p a ih =>
    induction q using project_induction with
    | slot n => exact absurd (text_project p a ▸ h).symm (text_slot_ne_wrap n p.text a)
    | project q b _ =>
      rw [text_project, text_project] at h
      obtain ⟨rfl, hinner⟩ := wrap_inj p.opens_text q.opens_text h
      rw [ih hinner]

example : (⟨-1, [.deref, .field (-2), .index 3, .constantIndex (-4)]⟩ : Place).text = "((*_-1).-2)[_3][-4]" := by decide

end Place

end ContractLint
