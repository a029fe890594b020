import Mathlib.Data.List.DropRight
import ContractLint.Signature.Path

/-! Normalising a path twice. What the walk along a path keeps is settled: at every `<` that the next walk comes to,
an `<impl ..>` segment begins or no argument list may stand. So the next walk drops nothing, although it may see
segments that the first one did not, where dropping an argument list has brought `<`, `impl` and a blank together. Only
the blanks at the end can undo this, when they are all that follows a last `<impl`. They do so only at the end of a path
that itself ends in them, so a path that does not is normalised once and for all. -/

namespace ContractLint.Path

open CodePoint (char)

/-! ### Brackets -/

/-- Behind a character `previous` and at a depth that is not zero, the text first comes to depth zero with its last
character. -/
inductive Closes : (depth : Nat) → (previous : CodePoint) → List CodePoint → Prop
  | last {p : CodePoint} (h : p ≠ '-') : Closes 1 p [char '>']
  | down {d : Nat} {p : CodePoint} {cs : List CodePoint} (h : p ≠ '-') (rest : Closes (d + 1) '>' cs) :
      Closes (d + 2) p (char '>' :: cs)
  | up {d : Nat} {p : CodePoint} {cs : List CodePoint} (rest : Closes (d + 1) '<' cs) : Closes d p (char '<' :: cs)
  | plain {d : Nat} {p c : CodePoint} {cs : List CodePoint} (hc : c ≠ '<') (arrow : c = '>' → p = '-')
      (rest : Closes d c cs) : Closes d p (c :: cs)

/-- The text does not come to depth zero. -/
inductive StaysOpen : (depth : Nat) → (previous : CodePoint) → List CodePoint → Prop
  | nil (d : Nat) (p : CodePoint) : StaysOpen d p []
  | down {d : Nat} {p : CodePoint} {cs : List CodePoint} (h : p ≠ '-') (rest : StaysOpen (d + 1) '>' cs) :
      StaysOpen (d + 2) p (char '>' :: cs)
  | up {d : Nat} {p : CodePoint} {cs : List CodePoint} (rest : StaysOpen (d + 1) '<' cs) :
      StaysOpen d p (char '<' :: cs)
  | plain {d : Nat} {p c : CodePoint} {cs : List CodePoint} (hc : c ≠ '<') (arrow : c = '>' → p = '-')
      (rest : StaysOpen d c cs) : StaysOpen d p (c :: cs)

section Brackets

variable {d : Nat} {p c : CodePoint} {cs : List CodePoint}

@[simp] theorem closeLength_up : closeLength d p (char '<' :: cs) = closeLength (d + 1) '<' cs + 1 := by
  simp [closeLength]

theorem closeLength_last (h : p ≠ '-') : closeLength 1 p (char '>' :: cs) = 1 := by
  simp [closeLength, h]

theorem closeLength_down (h : p ≠ '-') : closeLength (d + 2) p (char '>' :: cs) = closeLength (d + 1) '>' cs + 1 := by
  simp [closeLength, h]

theorem closeLength_plain (hc : c ≠ '<') (arrow : c = '>' → p = '-') :
    closeLength d p (c :: cs) = closeLength d c cs + 1 := by
  have h : ¬ (c = '>' ∧ p ≠ '-') := fun h => h.2 (arrow h.1)
  rw [closeLength, if_neg hc, if_neg h]

/-- A bracketed text ends where it closes, or it is all that there is. -/
theorem closes_take_or_staysOpen (d : Nat) (p : CodePoint) (cs : List CodePoint) :
    Closes (d + 1) p (cs.take (closeLength (d + 1) p cs)) ∨ StaysOpen (d + 1) p cs := by
  induction cs generalizing d p with
  | nil => exact .inr (.nil _ _)
  | cons c cs ih =>
    by_cases hc : c = '<'
    · subst hc
      rw [closeLength_up, List.take_succ_cons]
      exact (ih (d + 1) '<').imp .up .up
    by_cases hp : c = '>' ∧ p ≠ '-'
    · obtain ⟨rfl, hp⟩ := hp
      cases d with
      | zero =>
        rw [closeLength_last hp]
        exact .inl (.last hp)
      | succ d =>
        rw [closeLength_down hp, List.take_succ_cons]
        exact (ih d '>').imp (.down hp) (.down hp)
    · have arrow : c = '>' → p = '-' := fun h => of_not_not fun hne => hp ⟨h, hne⟩
      rw [closeLength_plain hc arrow, List.take_succ_cons]
      exact (ih d c).imp (.plain hc arrow) (.plain hc arrow)

theorem Closes.closeLength_append (h : Closes d p cs) (rest : List CodePoint) :
    closeLength d p (cs ++ rest) = cs.length := by
  induction h with
  | last h => exact closeLength_last h
  | down h _ ih => rw [List.cons_append, closeLength_down h, ih, List.length_cons]
  | up _ ih => rw [List.cons_append, closeLength_up, ih, List.length_cons]
  | plain hc arrow _ ih => rw [List.cons_append, closeLength_plain hc arrow, ih, List.length_cons]

/-- Inside another bracket a closed one is passed over, and the depth is then what it was. -/
theorem Closes.closeLength_nested (h : Closes d p cs) (k : Nat) (rest : List CodePoint) :
    closeLength (d + (k + 1)) p (cs ++ rest) = cs.length + closeLength (k + 1) '>' rest := by
  induction h with
  | @last p h =>
    have hdown : closeLength (k + 2) p (char '>' :: rest) = closeLength (k + 1) '>' rest + 1 := closeLength_down h
    rw [show 1 + (k + 1) = k + 2 by omega, List.singleton_append, hdown, List.length_singleton]
    omega
  | @down d p cs h _ ih =>
    have hdown : closeLength (d + (k + 1) + 2) p (char '>' :: (cs ++ rest)) =
        closeLength (d + (k + 1) + 1) '>' (cs ++ rest) + 1 := closeLength_down h
    rw [show d + 2 + (k + 1) = d + (k + 1) + 2 by omega, List.cons_append, hdown,
      show d + (k + 1) + 1 = d + 1 + (k + 1) by omega, ih, List.length_cons]
    omega
  | @up d p cs _ ih =>
    rw [List.cons_append, closeLength_up, show d + (k + 1) + 1 = d + 1 + (k + 1) by omega, ih, List.length_cons]
    omega
  | plain hc arrow _ ih =>
    rw [List.cons_append, closeLength_plain hc arrow, ih, List.length_cons]
    omega

theorem StaysOpen.closeLength_eq (h : StaysOpen d p cs) (k : Nat) : closeLength (d + k) p cs = cs.length := by
  induction h with
  | nil => rfl
  | @down d p cs h _ ih =>
    have hdown : closeLength (d + k + 2) p (char '>' :: cs) = closeLength (d + k + 1) '>' cs + 1 := closeLength_down h
    rw [show d + 2 + k = d + k + 2 by omega, hdown, show d + k + 1 = d + 1 + k by omega, ih, List.length_cons]
  | @up d p cs _ ih => rw [closeLength_up, show d + k + 1 = d + 1 + k by omega, ih, List.length_cons]
  | plain hc arrow _ ih => rw [closeLength_plain hc arrow, ih, List.length_cons]

theorem StaysOpen.of_append {xs ys : List CodePoint} (h : StaysOpen d p (xs ++ ys)) : StaysOpen d p xs := by
  induction xs generalizing d p with
  | nil => exact .nil d p
  | cons c xs ih =>
    cases h with
    | down h rest => exact .down h (ih rest)
    | up rest => exact .up (ih rest)
    | plain hc arrow rest => exact .plain hc arrow (ih rest)

theorem Closes.exists_append (h : Closes d p cs) : ∃ front, cs = front ++ [char '>'] := by
  induction h with
  | last h => exact ⟨[], rfl⟩
  | down _ _ ih | up _ ih | plain _ _ _ ih =>
    obtain ⟨front, rfl⟩ := ih
    exact ⟨_ :: front, rfl⟩

end Brackets

/-! ### One step of the walk -/

/-- What is written out by pieces that are given last first. -/
def written (pieces : List (List CodePoint)) : List CodePoint := pieces.reverse.flatten

@[simp] theorem written_nil : written [] = [] := rfl

@[simp] theorem written_cons (piece : List CodePoint) (pieces : List (List CodePoint)) :
    written (piece :: pieces) = written pieces ++ piece := by
  simp [written]

/-- Whether an argument list may follow the pieces: they end in `::` or in a name. -/
def takesArguments : List (List CodePoint) → Bool
  | [.char ':'] :: [.char ':'] :: _ => true
  | piece :: _ => endsName piece
  | [] => false

/-- The pieces without a `::` at the end. -/
def withoutSeparator : List (List CodePoint) → List (List CodePoint)
  | [.char ':'] :: [.char ':'] :: front => front
  | pieces => pieces

section Walk

variable {pieces : List (List CodePoint)} {c : CodePoint} {cs : List CodePoint}

/-- The walk comes to the next character. -/
theorem walk_cons (pieces : List (List CodePoint)) (c : CodePoint) (cs : List CodePoint) :
    walk pieces 0 (c :: cs) =
      if c = '<' then
        if isImpl cs then walk ((c :: cs).take (bracketLength (c :: cs)) :: pieces) (bracketLength (c :: cs) - 1) cs
        else if takesArguments pieces then walk (withoutSeparator pieces) (bracketLength (c :: cs) - 1) cs
        else walk ([c] :: pieces) 0 cs
      else walk ([c] :: pieces) 0 cs := by
  by_cases hc : c = '<'
  · by_cases hi : isImpl cs = true
    · simp [walk, hc, hi]
    · rw [walk.eq_def]
      simp only [if_pos hc, if_neg hi]
      split
      · simp [takesArguments, withoutSeparator]
      · next piece rest hne =>
        have hsame : withoutSeparator (piece :: rest) = piece :: rest := by
          unfold withoutSeparator
          split
          · next h => simp_all
          · rfl
        simp [takesArguments, hsame]
      · simp [takesArguments]
  · simp [walk, hc]

theorem walk_plain (hc : c ≠ '<') : walk pieces 0 (c :: cs) = walk ([c] :: pieces) 0 cs := by
  rw [walk_cons, if_neg hc]

theorem walk_pending (pieces : List (List CodePoint)) :
    walk pieces (bracketLength (c :: cs) - 1) cs = walk pieces 0 ((c :: cs).drop (bracketLength (c :: cs))) := by
  have hpos := bracketLength_pos c cs
  obtain ⟨n, hn⟩ : ∃ n, bracketLength (c :: cs) = n + 1 := ⟨_, (Nat.succ_pred_eq_of_pos hpos).symm⟩
  rw [walk_drop, hn, Nat.add_sub_cancel, List.drop_succ_cons]

theorem walk_segment (hi : isImpl cs = true) :
    walk pieces 0 (char '<' :: cs) =
      walk ((char '<' :: cs).take (bracketLength (char '<' :: cs)) :: pieces) 0
        ((char '<' :: cs).drop (bracketLength (char '<' :: cs))) := by
  rw [walk_cons, if_pos rfl, if_pos hi, walk_pending]

theorem walk_arguments (hi : isImpl cs = false) (ht : takesArguments pieces = true) :
    walk pieces 0 (char '<' :: cs) =
      walk (withoutSeparator pieces) 0 ((char '<' :: cs).drop (bracketLength (char '<' :: cs))) := by
  rw [walk_cons, if_pos rfl, if_neg (by simp [hi]), if_pos ht, walk_pending]

theorem walk_bracket (hi : isImpl cs = false) (ht : takesArguments pieces = false) :
    walk pieces 0 (char '<' :: cs) = walk ([char '<'] :: pieces) 0 cs := by
  rw [walk_cons, if_pos rfl, if_neg (by simp [hi]), if_neg (by simp [ht])]

/-- Induction along the walk: it ends, keeps a character or a segment, or drops an argument list. -/
theorem walk_induction {P : List (List CodePoint) → List CodePoint → Prop} (nil : ∀ pieces, P pieces [])
    (plain : ∀ pieces (c : CodePoint) cs, c ≠ '<' → P ([c] :: pieces) cs → P pieces (c :: cs))
    (segment : ∀ pieces cs, isImpl cs = true →
      P ((char '<' :: cs).take (bracketLength (char '<' :: cs)) :: pieces)
        ((char '<' :: cs).drop (bracketLength (char '<' :: cs))) →
      P pieces (char '<' :: cs))
    (arguments : ∀ pieces cs, isImpl cs = false → takesArguments pieces = true →
      P (withoutSeparator pieces) ((char '<' :: cs).drop (bracketLength (char '<' :: cs))) → P pieces (char '<' :: cs))
    (bracket : ∀ pieces cs, isImpl cs = false → takesArguments pieces = false → P ([char '<'] :: pieces) cs →
      P pieces (char '<' :: cs))
    (pieces : List (List CodePoint)) (cs : List CodePoint) : P pieces cs := by
  induction hn : cs.length using Nat.strong_induction_on generalizing pieces cs with
  | h n ih =>
    cases cs with
    | nil => exact nil pieces
    | cons c cs =>
      rw [List.length_cons] at hn
      by_cases hc : c = '<'
      · subst hc
        have hdrop : ((char '<' :: cs).drop (bracketLength (char '<' :: cs))).length < n := by
          have hpos := bracketLength_pos '<' cs
          rw [List.length_drop, List.length_cons]
          omega
        by_cases hi : isImpl cs = true
        · exact segment pieces cs hi (ih _ hdrop _ _ rfl)
        · rw [Bool.not_eq_true] at hi
          by_cases ht : takesArguments pieces = true
          · exact arguments pieces cs hi ht (ih _ hdrop _ _ rfl)
          · exact bracket pieces cs hi (Bool.not_eq_true _ ▸ ht) (ih _ (by omega) _ _ rfl)
      · exact plain pieces c cs hc (ih _ (by omega) _ _ rfl)

end Walk

/-! ### Settled texts -/

/-- An argument list may follow a text, which is given last character first. -/
def Expects (front : List CodePoint) : Prop :=
  [char ':', char ':'] <+: front ∨ ∃ c ∈ front.head?, c.isAlphanumeric = true ∨ c = '_'

theorem Expects.append {front : List CodePoint} (h : Expects front) (more : List CodePoint) :
    Expects (front ++ more) := by
  refine h.imp (fun h => h.trans (List.prefix_append _ _)) ?_
  rintro ⟨c, hc, hn⟩
  exact ⟨c, by rw [List.head?_append, hc, Option.some_or]; rfl, hn⟩

/-- A walk that has passed `front`, which is given last character first, drops nothing of what follows: each `<` opens
an `<impl ..>` segment, or stands where no argument list may. -/
inductive Settled : (front : List CodePoint) → List CodePoint → Prop
  | nil (front : List CodePoint) : Settled front []
  | plain {front : List CodePoint} {c : CodePoint} {cs : List CodePoint} (hc : c ≠ '<')
      (rest : Settled (c :: front) cs) : Settled front (c :: cs)
  | bracket {front cs : List CodePoint} (h : ¬ Expects front) (rest : Settled (char '<' :: front) cs) :
      Settled front (char '<' :: cs)
  | segment {front body cs : List CodePoint} (hi : isImpl body = true) (hc : Closes 1 '<' body)
      (rest : Settled (body.reverse ++ char '<' :: front) cs) : Settled front (char '<' :: (body ++ cs))
  | openSegment {front body : List CodePoint} (hi : isImpl body = true) (ho : StaysOpen 1 '<' body) :
      Settled front (char '<' :: body)

namespace Settled

variable {front cs : List CodePoint}

/-- A settled text is settled behind less. -/
theorem of_append {more : List CodePoint} (h : Settled (front ++ more) cs) : Settled front cs := by
  generalize hf : front ++ more = whole at h
  induction h generalizing front with
  | nil => exact .nil _
  | plain hc _ ih => exact .plain hc (ih (by rw [← hf]; rfl))
  | bracket he _ ih =>
    exact .bracket (fun h => he (hf ▸ h.append more)) (ih (by rw [← hf]; rfl))
  | segment hi hcl _ ih => exact .segment hi hcl (ih (by rw [← hf]; simp))
  | openSegment hi ho => exact .openSegment hi ho

/-- A bracket that is opened before a settled text ends between two of its parts, so what follows is settled. -/
theorem drop_closeLength (h : Settled front cs) (d : Nat) (p : CodePoint) :
    Settled ((cs.take (closeLength (d + 1) p cs)).reverse ++ front) (cs.drop (closeLength (d + 1) p cs)) := by
  induction h generalizing d p with
  | nil front => exact .nil _
  | @plain front c cs hc rest ih =>
    by_cases hp : c = '>' ∧ p ≠ '-'
    · obtain ⟨rfl, hp⟩ := hp
      cases d with
      | zero =>
        rw [closeLength_last hp]
        exact rest
      | succ d =>
        rw [closeLength_down hp]
        simpa using ih d '>'
    · have arrow : c = '>' → p = '-' := fun h => of_not_not fun hne => hp ⟨h, hne⟩
      rw [closeLength_plain hc arrow]
      simpa using ih d c
  | bracket he rest ih =>
    rw [closeLength_up]
    simpa using ih (d + 1) '<'
  | @segment front body cs hi hc rest ih =>
    have hlen : closeLength (d + 1) p (char '<' :: (body ++ cs)) =
        (char '<' :: body).length + closeLength (d + 1) '>' cs := by
      rw [closeLength_up, Nat.add_comm (d + 1) 1, hc.closeLength_nested, List.length_cons]
      omega
    rw [hlen, ← List.cons_append, List.take_length_add_append, List.drop_length_add_append]
    simpa using ih d '>'
  | @openSegment front body hi ho =>
    have hlen : closeLength (d + 1) p (char '<' :: body) = (char '<' :: body).length := by
      rw [closeLength_up, Nat.add_comm (d + 1) 1, ho.closeLength_eq, List.length_cons]
    rw [hlen, List.drop_length]
    exact .nil _

end Settled

theorem bracketLength_cons (cs : List CodePoint) : bracketLength (char '<' :: cs) = closeLength 1 '<' cs + 1 := by
  rw [bracketLength, closeLength_up]

theorem Closes.bracketLength_append {body : List CodePoint} (h : Closes 1 '<' body) (rest : List CodePoint) :
    bracketLength (char '<' :: (body ++ rest)) = (char '<' :: body).length := by
  rw [bracketLength_cons, h.closeLength_append, List.length_cons]

theorem isImpl_append {body : List CodePoint} (h : isImpl body = true) (rest : List CodePoint) :
    isImpl (body ++ rest) = true := by
  rw [isImpl, List.isPrefixOf_iff_prefix] at *
  exact h.trans (List.prefix_append _ _)

/-- A name at the end of the pieces is one at the end of what they write. -/
theorem expects_of_takesArguments {pieces : List (List CodePoint)} (h : takesArguments pieces = true) :
    Expects (written pieces).reverse := by
  unfold takesArguments at h
  split at h
  · left
    simp
  · next piece rest _ =>
    right
    rw [endsName, Bool.or_eq_true, beq_iff_eq] at h
    rcases h with h | rfl
    · -- an alphanumeric piece is not empty, and its last character is alphanumeric
      rw [Text.allAlphanumeric, Bool.and_eq_true, List.all_eq_true] at h
      obtain ⟨init, c, rfl⟩ : ∃ init c, piece = init ++ [c] := by
        rcases List.eq_nil_or_concat piece with rfl | ⟨init, c, rfl⟩
        · simp at h
        · exact ⟨init, c, List.concat_eq_append ..⟩
      exact ⟨c, by simp, .inl (h.2 c (by simp))⟩
    · exact ⟨'_', by simp, .inr rfl⟩
  · simp at h

/-- The walk along a settled text keeps all of it. -/
theorem written_walk_of_settled {front cs : List CodePoint} (h : Settled front cs) (pieces : List (List CodePoint))
    (hf : (written pieces).reverse = front) : written (walk pieces 0 cs) = written pieces ++ cs := by
  induction hn : cs.length using Nat.strong_induction_on generalizing front cs pieces with
  | h n ih =>
    cases h with
    | nil front => simp [walk]
    | @plain _ c cs hc rest =>
      rw [walk_plain hc, ih cs.length (by simp [← hn]) rest ([c] :: pieces) (by simp [hf]) rfl]
      simp
    | @bracket _ cs he rest =>
      by_cases hi : isImpl cs = true
      · -- the first walk did not see a segment here, and this one keeps what it takes for one
        have hdrop := rest.drop_closeLength 0 '<'
        rw [walk_segment hi, bracketLength_cons, List.take_succ_cons, List.drop_succ_cons]
        rw [ih _ (by rw [← hn, List.length_drop, List.length_cons]; omega) hdrop _ (by simp [hf]) rfl]
        simp
      · have ht : takesArguments pieces = false :=
          Bool.eq_false_iff.2 fun ht => he (hf ▸ expects_of_takesArguments ht)
        have hkept := ih cs.length (by simp [← hn]) rest ([char '<'] :: pieces) (by simp [hf]) rfl
        rw [walk_bracket (Bool.eq_false_iff.2 hi) ht, hkept]
        simp
    | @segment _ body cs hi hc rest =>
      have hlen := hc.bracketLength_append cs
      have hlt : cs.length < n := by
        rw [← hn, List.length_cons, List.length_append]
        omega
      have hkept := ih cs.length hlt rest ((char '<' :: body) :: pieces) (by simp [hf]) rfl
      rw [walk_segment (isImpl_append hi cs), hlen, ← List.cons_append, List.take_left, List.drop_left, hkept]
      simp
    | @openSegment _ body hi ho =>
      have hlen : bracketLength (char '<' :: body) = (char '<' :: body).length := by
        rw [bracketLength_cons, ho.closeLength_eq 0, List.length_cons]
      rw [walk_segment hi, hlen, List.take_length, List.drop_length]
      simp [walk]

/-! ### What a walk keeps -/

/-- The pieces that a walk keeps, last first, as long as it has not come to a segment without an end. -/
inductive Kept : List (List CodePoint) → Prop
  | nil : Kept []
  | plain {pieces : List (List CodePoint)} {c : CodePoint} (hc : c ≠ '<') (rest : Kept pieces) : Kept ([c] :: pieces)
  | bracket {pieces : List (List CodePoint)} (h : takesArguments pieces = false) (rest : Kept pieces) :
      Kept ([char '<'] :: pieces)
  | segment {pieces : List (List CodePoint)} {body : List CodePoint} (hi : isImpl body = true) (hc : Closes 1 '<' body)
      (rest : Kept pieces) : Kept ((char '<' :: body) :: pieces)

namespace Kept

variable {pieces : List (List CodePoint)}

theorem withoutSeparator (h : Kept pieces) : Kept (withoutSeparator pieces) := by
  unfold Path.withoutSeparator
  split
  · cases h with
    | plain _ h =>
      cases h with
      | plain _ h => exact h
  · exact h

/-- A last character that is no bracket is a piece of its own. -/
theorem exists_of_written (h : Kept pieces) {c : CodePoint} {front : List CodePoint}
    (hw : (written pieces).reverse = c :: front) (hopen : c ≠ '<') (hclose : c ≠ '>') :
    ∃ rest, pieces = [c] :: rest ∧ Kept rest ∧ (written rest).reverse = front := by
  cases h with
  | nil => simp at hw
  | @plain rest c' _ h =>
    simp only [written_cons, List.reverse_append, List.reverse_singleton, List.singleton_append, List.cons.injEq] at hw
    exact ⟨rest, by rw [hw.1], h, hw.2⟩
  | bracket _ _ =>
    simp only [written_cons, List.reverse_append, List.reverse_singleton, List.singleton_append, List.cons.injEq] at hw
    exact absurd hw.1.symm hopen
  | segment _ hc _ =>
    obtain ⟨body, rfl⟩ := hc.exists_append
    rw [written_cons, ← List.cons_append, List.reverse_append, List.reverse_append] at hw
    exact absurd (List.cons.inj hw).1.symm hclose

/-- Pieces that end in no name write nothing that ends in one. -/
theorem not_expects (h : Kept pieces) (ht : takesArguments pieces = false) : ¬ Expects (written pieces).reverse := by
  rintro (⟨front, hw⟩ | ⟨c, hc, hn⟩)
  · obtain ⟨rest, rfl, h, hw⟩ := h.exists_of_written hw.symm (by decide) (by decide)
    obtain ⟨rest, rfl, -, -⟩ := h.exists_of_written hw (by decide) (by decide)
    simp [takesArguments] at ht
  · have hbracket (b : CodePoint) (hb : b.isAlphanumeric = false ∧ b ≠ '_') : c ≠ b := by
      rintro rfl
      simp [hb] at hn
    obtain ⟨front, hw⟩ : ∃ front, (written pieces).reverse = c :: front := List.head?_eq_some_iff.1 hc
    obtain ⟨rest, rfl, -, -⟩ := h.exists_of_written hw (hbracket '<' (by decide)) (hbracket '>' (by decide))
    have hname : endsName [c] = true := by simpa [endsName, Text.allAlphanumeric] using hn
    unfold takesArguments at ht
    split at ht <;> simp_all

/-- What is settled behind the pieces is settled with them. -/
theorem settled (h : Kept pieces) {cs : List CodePoint} (hs : Settled (written pieces).reverse cs) :
    Settled [] (written pieces ++ cs) := by
  induction h generalizing cs with
  | nil => exact hs
  | @plain pieces c hc _ ih =>
    rw [written_cons, List.append_assoc]
    exact ih (.plain hc (by simpa using hs))
  | bracket ht h ih =>
    rw [written_cons, List.append_assoc]
    exact ih (.bracket (h.not_expects ht) (by simpa using hs))
  | segment hi hc _ ih =>
    rw [written_cons, List.append_assoc]
    exact ih (.segment hi hc (by simpa using hs))

end Kept

/-- A segment holds the `impl` and the blank that make it one. -/
theorem isImpl_take {cs : List CodePoint} (h : isImpl cs = true) : isImpl (cs.take (closeLength 1 '<' cs)) = true := by
  obtain ⟨rest, rfl⟩ := List.isPrefixOf_iff_prefix.1 h
  simp [closeLength, isImpl]

/-- What is kept of a path has no segment without an end, or such a segment ends it as the path ends. -/
def KeptOrLast (pieces : List (List CodePoint)) (cs : List CodePoint) : Prop :=
  Kept pieces ∨ ∃ c, cs.getLast? = some c ∧ (written pieces).getLast? = some c

theorem KeptOrLast.append {pieces : List (List CodePoint)} {cs : List CodePoint} (h : KeptOrLast pieces cs)
    (front : List CodePoint) : KeptOrLast pieces (front ++ cs) := by
  refine h.imp_right ?_
  rintro ⟨c, hc, hw⟩
  exact ⟨c, by rw [List.getLast?_append, hc, Option.some_or], hw⟩

theorem keptOrLast_walk {pieces : List (List CodePoint)} (h : Kept pieces) (cs : List CodePoint) :
    KeptOrLast (walk pieces 0 cs) cs := by
  induction pieces, cs using walk_induction with
  | nil pieces => exact .inl h
  | plain pieces c cs hc ih =>
    rw [walk_plain hc]
    exact (ih (.plain hc h)).append [c]
  | segment pieces cs hi ih =>
    rw [walk_segment hi]
    rw [bracketLength_cons, List.take_succ_cons, List.drop_succ_cons] at ih ⊢
    rcases closes_take_or_staysOpen 0 '<' cs with hc | ho
    · have hrest := (ih (.segment (isImpl_take hi) hc h)).append (char '<' :: cs.take (closeLength 1 '<' cs))
      rwa [List.cons_append, List.take_append_drop] at hrest
    · -- the walk ends in this segment, which is all that is left of the path
      rw [ho.closeLength_eq 0, List.take_length, List.drop_length, walk]
      obtain ⟨c, hc⟩ : ∃ c, (char '<' :: cs).getLast? = some c := ⟨_, List.getLast?_cons⟩
      refine .inr ⟨c, hc, ?_⟩
      rw [written_cons, List.getLast?_append, hc, Option.some_or]
  | arguments pieces cs hi ht ih =>
    rw [walk_arguments hi ht]
    have hrest := (ih h.withoutSeparator).append ((char '<' :: cs).take (bracketLength (char '<' :: cs)))
    rwa [List.take_append_drop] at hrest
  | bracket pieces cs hi ht ih =>
    rw [walk_bracket hi ht]
    exact (ih (.bracket ht h)).append [char '<']

/-- What a walk keeps is settled. -/
theorem settled_walk {pieces : List (List CodePoint)} (h : Kept pieces) (cs : List CodePoint) :
    Settled [] (written (walk pieces 0 cs)) := by
  induction pieces, cs using walk_induction with
  | nil pieces =>
    rw [walk, ← List.append_nil (written pieces)]
    exact h.settled (.nil _)
  | plain pieces c cs hc ih =>
    rw [walk_plain hc]
    exact ih (.plain hc h)
  | segment pieces cs hi ih =>
    rw [walk_segment hi]
    rw [bracketLength_cons, List.take_succ_cons, List.drop_succ_cons] at ih ⊢
    rcases closes_take_or_staysOpen 0 '<' cs with hc | ho
    · exact ih (.segment (isImpl_take hi) hc h)
    · rw [ho.closeLength_eq 0, List.take_length, List.drop_length, walk, written_cons]
      exact h.settled (.openSegment hi ho)
  | arguments pieces cs hi ht ih =>
    rw [walk_arguments hi ht]
    exact ih h.withoutSeparator
  | bracket pieces cs hi ht ih =>
    rw [walk_bracket hi ht]
    exact ih (.bracket ht h)

end ContractLint.Path

/-! ### Blanks at the ends -/

namespace ContractLint.Text

theorem trim_eq (cs : List CodePoint) : trim cs = (cs.dropWhile CodePoint.isBlank).rdropWhile CodePoint.isBlank := rfl

theorem trim_trim (cs : List CodePoint) : trim (trim cs) = trim cs := by
  have hfront : (trim cs).dropWhile CodePoint.isBlank = trim cs := by
    rw [List.dropWhile_eq_self_iff]
    intro hpos
    -- the first character is that of the text without its leading blanks
    obtain ⟨trail, htrail⟩ := List.rdropWhile_prefix CodePoint.isBlank (l := cs.dropWhile CodePoint.isBlank)
    rw [← trim_eq] at htrail
    have hhead := List.dropWhile_get_zero_not CodePoint.isBlank cs (by rw [← htrail, List.length_append]; omega)
    simpa only [← htrail, List.get_eq_getElem, List.getElem_append_left hpos] using hhead
  rw [trim_eq (trim cs), hfront, trim_eq, List.rdropWhile_idempotent]

/-- Trimming takes off blanks at both ends. -/
theorem exists_blanks_trim (cs : List CodePoint) :
    ∃ lead trail, cs = lead ++ (trim cs ++ trail) ∧ (∀ c ∈ lead, c.isBlank = true) ∧ ∀ c ∈ trail, c.isBlank = true := by
  refine ⟨cs.takeWhile CodePoint.isBlank, (cs.dropWhile CodePoint.isBlank).rtakeWhile CodePoint.isBlank, ?_, ?_, ?_⟩
  · rw [trim_eq, List.rdropWhile_append_rtakeWhile, List.takeWhile_append_dropWhile]
  · exact fun c => List.mem_takeWhile_imp
  · exact fun c => List.mem_rtakeWhile_imp

theorem isBlank_of_getLast?_trim {cs : List CodePoint} {c : CodePoint} (h : (trim cs).getLast? = some c) :
    c.isBlank = false := by
  have hne : trim cs ≠ [] := by
    intro hnil
    simp [hnil] at h
  rw [List.getLast?_eq_some_getLast hne, Option.some.injEq] at h
  have hlast := List.rdropWhile_last_not CodePoint.isBlank (cs.dropWhile CodePoint.isBlank) hne
  rw [← h]
  exact Bool.eq_false_iff.2 hlast

theorem trim_eq_nil_iff {cs : List CodePoint} : trim cs = [] ↔ ∀ c ∈ cs, c.isBlank = true := by
  constructor
  · intro h c hc
    obtain ⟨lead, trail, hsplit, hlead, htrail⟩ := exists_blanks_trim cs
    rw [h, List.nil_append] at hsplit
    rw [hsplit, List.mem_append] at hc
    exact hc.elim (hlead c) (htrail c)
  · intro h
    rw [trim_eq, List.dropWhile_eq_nil_iff.2 h, List.rdropWhile_nil]

end ContractLint.Text

namespace ContractLint.Path

open CodePoint (char)

/-- The start of a segment without the blank that makes it one. -/
def bareImpl : List CodePoint := [char '<', char 'i', char 'm', char 'p', char 'l']

/-- What makes a segment one is there without the blanks at the end, but for the first of them. -/
theorem isImpl_or_of_trail {cs trail : List CodePoint} (hi : isImpl (cs ++ trail) = true)
    (ht : ∀ c ∈ trail, c.isBlank = true) : isImpl cs = true ∨ char '<' :: cs = bareImpl := by
  have himpl : [char 'i', char 'm', char 'p', char 'l', char ' '] <+: cs ++ trail := List.isPrefixOf_iff_prefix.1 hi
  rcases List.prefix_or_prefix_of_prefix himpl (List.prefix_append cs trail) with h | ⟨rest, hrest⟩
  · exact .inl (List.isPrefixOf_iff_prefix.2 h)
  -- the text ends among these five characters, and what is missing of them is blank
  have hl : char 'l' ∉ rest := by
    rw [← hrest, List.prefix_append_right_inj] at himpl
    exact fun hmem => absurd (ht 'l' (himpl.subset hmem)) (by decide)
  match cs, hrest with
  | [], h | [_], h | [_, _], h | [_, _, _], h =>
    refine absurd ?_ hl
    simp_all
  | [_, _, _, _], h => simp_all [bareImpl]
  | [_, _, _, _, _], h => simp_all [isImpl]

namespace Settled

variable {front cs : List CodePoint}

theorem tail {c : CodePoint} (h : Settled front (c :: cs)) (hc : c ≠ '<') : Settled (c :: front) cs := by
  cases h with
  | plain _ rest => exact rest
  | bracket _ _ => exact absurd rfl hc
  | segment _ _ _ => exact absurd rfl hc
  | openSegment _ _ => exact absurd rfl hc

theorem of_lead {lead : List CodePoint} (h : Settled front (lead ++ cs)) (hl : ∀ c ∈ lead, c ≠ '<') :
    Settled (lead.reverse ++ front) cs := by
  induction lead generalizing front with
  | nil => exact h
  | cons c lead ih =>
    rw [List.forall_mem_cons] at hl
    simpa using ih (h.tail hl.1) hl.2

theorem of_blanks {lead : List CodePoint} (h : Settled front (lead ++ cs)) (hl : ∀ c ∈ lead, c.isBlank = true) :
    Settled (lead.reverse ++ front) cs := by
  refine h.of_lead ?_
  rintro c hc rfl
  exact absurd (hl _ hc) (by decide)

/-- Without the blanks at its end a text is still settled, unless they are what makes the last segment one. -/
theorem of_trail {trail : List CodePoint} (h : Settled front (cs ++ trail)) (ht : ∀ c ∈ trail, c.isBlank = true)
    (hend : ¬ bareImpl <:+ cs) : Settled front cs := by
  generalize hw : cs ++ trail = whole at h
  induction h generalizing cs with
  | nil front =>
    rw [(List.append_eq_nil_iff.1 hw).1]
    exact .nil front
  | plain hc rest ih =>
    cases cs with
    | nil => exact .nil _
    | cons c cs =>
      obtain ⟨rfl, hrest⟩ := List.cons.inj hw
      exact .plain hc (ih (fun h => hend (h.trans (List.suffix_cons _ _))) hrest)
  | bracket he rest ih =>
    cases cs with
    | nil => exact .nil _
    | cons c cs =>
      obtain ⟨rfl, hrest⟩ := List.cons.inj hw
      exact .bracket he (ih (fun h => hend (h.trans (List.suffix_cons _ _))) hrest)
  | @segment front body rest hi hc _ ih =>
    cases cs with
    | nil => exact .nil _
    | cons c cs =>
      obtain ⟨rfl, hrest⟩ := List.cons.inj hw
      -- a segment ends in a bracket, so it cannot end among the blanks
      obtain ⟨more, rfl, hmore⟩ : ∃ more, cs = body ++ more ∧ rest = more ++ trail := by
        rcases List.append_eq_append_iff.1 hrest with ⟨blanks, hbody, rfl⟩ | h
        · obtain ⟨init, hinit⟩ := hc.exists_append
          rcases List.eq_nil_or_concat blanks with rfl | ⟨front, b, rfl⟩
          · exact ⟨[], by simpa using hbody.symm, rfl⟩
          · have hb : b = '>' := by
              rw [hinit, List.concat_eq_append, ← List.append_assoc] at hbody
              exact (List.singleton_inj.1 (List.append_inj_right' hbody rfl)).symm
            have hblank := ht b (by simp)
            rw [hb] at hblank
            exact absurd hblank (by decide)
        · exact h
      exact .segment hi hc (ih (fun h => hend (h.trans (List.suffix_append (char '<' :: body) more))) hmore.symm)
  | @openSegment front body hi ho =>
    cases cs with
    | nil => exact .nil _
    | cons c cs =>
      obtain ⟨rfl, rfl⟩ := List.cons.inj hw
      rcases isImpl_or_of_trail hi ht with hi | hbare
      · exact .openSegment hi ho.of_append
      · exact absurd (hbare ▸ List.suffix_rfl) hend

end Settled

/-! ### Normalising -/

theorem normalizePoints_eq (cs : List CodePoint) : normalizePoints cs = Text.trim (written (walk [] 0 cs)) := rfl

theorem normalizePoints_of_settled {cs : List CodePoint} (h : Settled [] cs) : normalizePoints cs = Text.trim cs := by
  rw [normalizePoints_eq, written_walk_of_settled h [] rfl, written_nil, List.nil_append]

theorem settled_normalizePoints {cs : List CodePoint} (hend : ¬ bareImpl <:+ normalizePoints cs) :
    Settled [] (normalizePoints cs) := by
  have hwalk := settled_walk .nil cs
  obtain ⟨lead, trail, hsplit, hlead, htrail⟩ := Text.exists_blanks_trim (written (walk [] 0 cs))
  rw [hsplit] at hwalk
  have hrest := (hwalk.of_blanks hlead).of_trail htrail hend
  exact Settled.of_append hrest

/-- A path that is settled once it is normalised is not changed by normalising it again. -/
theorem normalize_of_settled {path : Text} (h : Settled [] (normalizePoints path.points)) :
    normalize (normalize path) = normalize path := by
  rw [normalize, normalize, normalizePoints_of_settled h, normalizePoints_eq, Text.trim_trim]

/-- A normalised path that does not end in `<impl` is not changed by normalising it again. -/
theorem normalize_normalize {path : Text} (hend : ¬ bareImpl <:+ (normalize path).points) :
    normalize (normalize path) = normalize path :=
  normalize_of_settled (settled_normalizePoints hend)

/-! ### Paths that do not end in a blank -/

/-- Blanks at the end of what is kept are pieces of their own, and the pieces in front of them were kept as well. -/
theorem Kept.of_trail {pieces : List (List CodePoint)} (h : Kept pieces) {cs trail : List CodePoint}
    (hw : written pieces = cs ++ trail) (ht : ∀ c ∈ trail, c.isBlank = true) :
    ∃ front, Kept front ∧ written front = cs := by
  induction trail using List.reverseRecOn generalizing pieces with
  | nil => exact ⟨pieces, h, by rw [hw, List.append_nil]⟩
  | append_singleton trail b ih =>
    have hblank : b.isBlank = true := ht b (by simp)
    have hb (c : CodePoint) (hc : c.isBlank = false) : b ≠ c := by
      rintro rfl
      exact absurd hblank (by simp [hc])
    have hlast : (written pieces).reverse = b :: (cs ++ trail).reverse := by
      rw [hw, ← List.append_assoc, List.reverse_append, List.reverse_singleton, List.singleton_append]
    obtain ⟨rest, rfl, hrest, hw⟩ := h.exists_of_written hlast (hb '<' (by decide)) (hb '>' (by decide))
    exact ih hrest (List.reverse_injective hw) fun c hc => ht c (by simp [hc])

/-- What is kept of such a path stays settled without the blanks at its ends: nothing stands behind a segment that runs
to the end of the path, and blanks behind anything else make no segment. -/
theorem settled_normalizePoints_of_last {cs : List CodePoint} (hlast : ∀ c, cs.getLast? = some c → c.isBlank = false) :
    Settled [] (normalizePoints cs) := by
  obtain ⟨lead, trail, hsplit, hlead, htrail⟩ := Text.exists_blanks_trim (written (walk [] 0 cs))
  rw [← List.append_assoc] at hsplit
  have hfront : Settled [] (lead ++ normalizePoints cs) := by
    rcases keptOrLast_walk .nil cs with hkept | ⟨c, hc, hw⟩
    · obtain ⟨front, hfront, hw⟩ := hkept.of_trail hsplit htrail
      have hsettled := hfront.settled (.nil _)
      rwa [List.append_nil, hw] at hsettled
    · rcases List.eq_nil_or_concat trail with rfl | ⟨init, b, rfl⟩
      · have hsettled := settled_walk .nil cs
        rwa [hsplit, List.append_nil] at hsettled
      · -- the last blank would be the last character of the path
        have hb : b = c := by
          rw [hsplit, List.concat_eq_append, ← List.append_assoc, List.getLast?_concat] at hw
          exact Option.some.inj hw
        have hblank : b.isBlank = true := htrail b (by simp)
        rw [hb, hlast c hc] at hblank
        cases hblank
  exact Settled.of_append (hfront.of_blanks hlead)

/-- Normalising is idempotent on every path, well-formed or not, that does not end in a blank. -/
theorem normalize_normalize_of_last {path : Text}
    (hlast : ∀ c, path.points.getLast? = some c → c.isBlank = false) :
    normalize (normalize path) = normalize path :=
  normalize_of_settled (settled_normalizePoints_of_last hlast)

/-- Two argument lists are dropped here, which brings `<impl` together and leaves a blank at the end of it. Once the
blank is gone the second walk sees no segment, but no name in front of the bracket either. -/
def joinedPath : Text := "f(<i<T>mpl ::<U>"

theorem normalize_normalize_of_last_joined :
    (∀ c, joinedPath.points.getLast? = some c → c.isBlank = false) ∧ normalize joinedPath = "f(<impl" ∧
      normalize (normalize joinedPath) = normalize joinedPath := by
  have hlast : ∀ c, joinedPath.points.getLast? = some c → c.isBlank = false := by
    intro c hc
    obtain rfl : char '>' = c := Option.some.inj hc
    decide
  exact ⟨hlast, by decide +kernel, normalize_normalize_of_last hlast⟩

end ContractLint.Path
