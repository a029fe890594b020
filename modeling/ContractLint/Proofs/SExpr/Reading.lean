import ContractLint.SExpr.Reader

/-! Rules of reading, one for each way in which a text can begin. The text behind is read by itself, so that a written
text is read by putting the rules together from its end. The reader counts its calls; each rule allows for any count
above the length of its text. -/

namespace ContractLint.SExpr

/-! ### Strings and atoms -/

/-- A character of a string as it is written between quotes. -/
def escapedChar (c : Char) : List Char := if c = '\\' || c = '"' then ['\\', c] else [c]

theorem stringBody_escapedChar (c : Char) (rest : List Char) :
    stringBody (escapedChar c ++ rest) = prepend [c] (stringBody rest) := by
  by_cases hc : c = '\\' ∨ c = '"'
  · have hescape : stringEscape c = [c] := by simp [stringEscape, hc]
    rw [escapedChar, if_pos (by simpa using hc), List.cons_append, List.singleton_append, stringBody, hescape]
  · rw [not_or] at hc
    rw [escapedChar, if_neg (by simp [hc]), List.singleton_append, stringBody]
    · exact hc.2
    all_goals simp [hc.1]

/-- Reading takes back a string up to its closing quote. -/
theorem stringBody_escaped (cs rest : List Char) :
    stringBody (cs.flatMap escapedChar ++ '"' :: rest) = .ok (cs, rest) := by
  induction cs with
  | nil => rfl
  | cons c cs ih =>
    rw [List.flatMap_cons, List.append_assoc, stringBody_escapedChar, ih]
    rfl

/-- Characters of which an atom can be made without escapes. An apostrophe could not begin one. -/
def isBare (c : Char) : Bool := !endsAtom c && c ≠ '\\' && c ≠ '\''

/-- A text in front of which an atom ends. -/
def EndsAtom (rest : List Char) : Prop := ∀ c ∈ rest.head?, endsAtom c = true

theorem endsAtom_cons {c : Char} (hc : endsAtom c = true) (cs : List Char) : EndsAtom (c :: cs) := by
  intro d hd
  cases hd
  exact hc

theorem atomBody_cons {c : Char} (hc : c ≠ '\\') (rest : List Char) :
    atomBody (c :: rest) = if endsAtom c then .ok ([], c :: rest) else prepend [c] (atomBody rest) := by
  rw [atomBody]
  all_goals simp [hc]

theorem isBare_iff {c : Char} : isBare c = true ↔ endsAtom c = false ∧ c ≠ '\\' ∧ c ≠ '\'' := by
  simp [isBare, and_assoc]

/-- Reading takes back an atom up to a character that ends it. -/
theorem atomBody_append {name rest : List Char} (hname : ∀ c ∈ name, isBare c = true) (hrest : EndsAtom rest) :
    atomBody (name ++ rest) = .ok (name, rest) := by
  induction name with
  | nil =>
    cases rest with
    | nil => rfl
    | cons c rest =>
      have hc := hrest c rfl
      have hslash : c ≠ '\\' := by
        rintro rfl
        cases hc
      rw [List.nil_append, atomBody_cons hslash, if_pos hc]
  | cons c name ih =>
    obtain ⟨hc, hname⟩ := List.forall_mem_cons.1 hname
    obtain ⟨hends, hslash, -⟩ := isBare_iff.1 hc
    rw [List.cons_append, atomBody_cons hslash, if_neg (by simp [hends]), ih hname]
    rfl

/-- A word that is read as a symbol. -/
structure IsWord (s : String) : Prop where
  ne_nil : s.toList ≠ []
  bare : ∀ c ∈ s.toList, isBare c = true
  ofAtom_eq : ofAtom s.toList = .symbol s

/-! ### Comments -/

theorem skipComment_append {text : List Char} (htext : '\n' ∉ text) (cs : List Char) :
    skipComment (text ++ '\n' :: cs) = cs := by
  have hall : ∀ c ∈ text, decide (c ≠ '\n') = true := by
    intro c hc
    rw [decide_eq_true_eq]
    rintro rfl
    exact htext hc
  rw [skipComment, List.dropWhile_append_of_pos hall]
  rfl

/-! ### Forms -/

/-- A text gives expressions and leaves a rest, whatever count of calls above its length the reader allows. -/
structure Reads (cs : List Char) (es : List SExpr) (rest : List Char) : Prop where
  length_le : rest.length ≤ cs.length
  forms_eq : ∀ {total fuel : Nat}, cs.length < fuel → forms total fuel cs = .ok (es, rest)

namespace Reads

variable {c : Char} {cs more rest : List Char} {es es' : List SExpr}

theorem of_step (hlen : rest.length ≤ (c :: cs).length)
    (hstep : ∀ total fuel, cs.length < fuel → forms total (fuel + 1) (c :: cs) = .ok (es, rest)) :
    Reads (c :: cs) es rest := by
  refine ⟨hlen, fun {total fuel} hfuel => ?_⟩
  obtain ⟨fuel, rfl⟩ := Nat.exists_eq_add_one.2 (Nat.zero_lt_of_lt hfuel)
  exact hstep total fuel (Nat.lt_of_succ_lt_succ hfuel)

theorem nil : Reads [] [] [] := by
  refine ⟨Nat.le_refl _, fun {total fuel} hfuel => ?_⟩
  obtain ⟨fuel, rfl⟩ := Nat.exists_eq_add_one.2 hfuel
  rfl

/-- A closing bracket is left. -/
theorem closing (hc : isClosing c = true) (cs : List Char) : Reads (c :: cs) [] (c :: cs) := by
  refine of_step (Nat.le_refl _) fun total fuel _ => ?_
  rcases (by simpa [isClosing] using hc : c = ')' ∨ c = ']') with rfl | rfl <;> rfl

/-- What a text gives follows from what a later part of it gives. -/
theorem of_rest (h : Reads more es' rest) (hlen : more.length ≤ cs.length)
    (hstep : ∀ total fuel, cs.length < fuel → forms total fuel more = .ok (es', rest) →
      forms total (fuel + 1) (c :: cs) = .ok (es, rest)) : Reads (c :: cs) es rest := by
  apply of_step
  · have hrest := h.length_le
    rw [List.length_cons]
    omega
  · intro total fuel hfuel
    exact hstep total fuel hfuel (h.forms_eq (by omega))

theorem space (hc : isSpace c = true) (h : Reads cs es rest) : Reads (c :: cs) es rest := by
  have hquote : c ≠ '"' := by
    rintro rfl
    cases hc
  apply h.of_rest (Nat.le_refl _)
  intro total fuel _ hforms
  rw [forms]
  simp only [if_neg hquote, if_pos hc, hforms]

theorem blanks {gap : List Char} (hgap : ∀ c ∈ gap, isSpace c = true) (h : Reads cs es rest) :
    Reads (gap ++ cs) es rest := by
  induction gap with
  | nil => exact h
  | cons c gap ih =>
    obtain ⟨hc, hgap⟩ := List.forall_mem_cons.1 hgap
    exact (ih hgap).space hc

theorem string (s : String) (h : Reads cs es rest) :
    Reads ('"' :: (s.toList.flatMap escapedChar ++ '"' :: cs)) (.string s :: es) rest := by
  apply h.of_rest
  · rw [List.length_append, List.length_cons]
    omega
  · intro total fuel _ hforms
    rw [forms]
    simp only [if_true, stringBody_escaped, hforms, bind, Except.bind, pure, Except.pure, String.ofList_toList]

/-- A pair of round brackets makes a list of what stands between them. -/
theorem list (h : Reads cs es (')' :: more)) (h' : Reads more es' rest) : Reads ('(' :: cs) (.list es :: es') rest := by
  apply h'.of_rest (Nat.le_of_succ_le h.length_le)
  intro total fuel hfuel hforms
  rw [forms]
  simp only [h.forms_eq hfuel, hforms, bind, Except.bind, pure, Except.pure]
  rfl

/-- A comment goes up to the end of its line. -/
theorem comment {text : List Char} (htext : '\n' ∉ text) (h : Reads cs es rest) :
    Reads (';' :: (text ++ '\n' :: cs)) es rest := by
  apply h.of_rest
  · rw [List.length_append, List.length_cons]
    omega
  · intro total fuel _ hforms
    show forms total fuel (skipComment (text ++ '\n' :: cs)) = .ok (es, rest)
    rw [skipComment_append htext, hforms]

/-- An atom goes up to a character that ends it. -/
theorem atom {name : List Char} (hne : name ≠ []) (hname : ∀ c ∈ name, isBare c = true) (hcs : EndsAtom cs)
    (h : Reads cs es rest) : Reads (name ++ cs) (ofAtom name :: es) rest := by
  have hatom := atomBody_append hname hcs
  obtain ⟨c, name, rfl⟩ := List.exists_cons_of_ne_nil hne
  obtain ⟨hends, hslash, hquote⟩ := isBare_iff.1 (hname c List.mem_cons_self)
  simp only [endsAtom, Bool.or_eq_false_iff, decide_eq_false_iff_not] at hends
  obtain ⟨⟨⟨⟨hopening, hclosing⟩, hstring⟩, hcomment⟩, hspace⟩ := hends
  rw [List.cons_append] at hatom ⊢
  apply h.of_rest
  · rw [List.length_append]
    omega
  · -- the first character begins nothing else, so all of them are read as an atom
    intro total fuel _ hforms
    rw [forms]
    simp only [hopening, hclosing, hstring, hcomment, hspace, hquote, Bool.false_eq_true, if_false, hatom, hforms, bind,
      Except.bind, pure, Except.pure]

/-- A list that begins with a word. What follows the word is the rest of the list. -/
theorem form {s : String} (hs : IsWord s) {body : List Char} {items : List SExpr}
    (hends : EndsAtom (body ++ ')' :: cs)) (hbody : Reads (body ++ ')' :: cs) items (')' :: cs))
    (h : Reads cs es rest) :
    Reads ('(' :: (s.toList ++ body ++ [')']) ++ cs) (.list (.symbol s :: items) :: es) rest := by
  have hatom := hbody.atom hs.ne_nil hs.bare hends
  rw [hs.ofAtom_eq] at hatom
  have hchars : '(' :: (s.toList ++ body ++ [')']) ++ cs = '(' :: (s.toList ++ (body ++ ')' :: cs)) := by simp
  rw [hchars]
  exact hatom.list h

end Reads

/-- A text is read as a single expression if all of it gives one. -/
theorem read_eq {cs : List Char} {e : SExpr} (h : Reads cs [e] []) : read cs = .ok e := by
  simp only [read, h.forms_eq (Nat.lt_succ_self _), bind, Except.bind, pure, Except.pure]

/-- The expressions of a text are read up to the bracket that is put behind it, on a line of its own. -/
theorem readAll_eq {cs : List Char} {es : List SExpr} (h : Reads (cs ++ ['\n', ')']) es [')']) :
    readAll cs = .ok (.list es) :=
  read_eq (h.list .nil)

end ContractLint.SExpr
