import Mathlib.Data.List.Forall2

/-! Computations that may fail. A sequence of them succeeds when every part does, and it fails with the first error
among its parts; these lemmas say so for one step after another and for the elements of a list. -/

namespace ContractLint.Outcome

universe u v

variable {ε : Type u} {α β : Type v}

theorem bind_eq_ok {x : Except ε α} {f : α → Except ε β} {b : β} :
    x >>= f = .ok b ↔ ∃ a, x = .ok a ∧ f a = .ok b := by
  cases x with
  | error e => simp [bind, Except.bind]
  | ok a => simp [bind, Except.bind]

theorem bind_eq_error {x : Except ε α} {f : α → Except ε β} {e : ε} :
    x >>= f = .error e ↔ x = .error e ∨ ∃ a, x = .ok a ∧ f a = .error e := by
  cases x with
  | error e' => simp [bind, Except.bind]
  | ok a => simp [bind, Except.bind]

@[simp] theorem pure_eq_ok {a b : α} : (pure a : Except ε α) = .ok b ↔ a = b := by
  simp [pure, Except.pure]

@[simp] theorem pure_ne_error {a : α} {e : ε} : (pure a : Except ε α) ≠ .error e := by
  simp [pure, Except.pure]

theorem map_eq_ok {x : Except ε α} {f : α → β} {b : β} : x.map f = .ok b ↔ ∃ a, x = .ok a ∧ f a = b := by
  cases x <;> simp [Except.map]

theorem map_eq_error {x : Except ε α} {f : α → β} {e : ε} : x.map f = .error e ↔ x = .error e := by
  cases x <;> simp [Except.map]

theorem exists_map_ok {x : Except ε α} {f : α → β} : (∃ b, x.map f = .ok b) ↔ ∃ a, x = .ok a := by
  cases x <;> simp [Except.map]

theorem exists_bind_pure_ok {x : Except ε α} {f : α → β} :
    (∃ b, (x >>= fun a => pure (f a)) = .ok b) ↔ ∃ a, x = .ok a := by
  cases x <;> simp [bind, Except.bind]

theorem mapError_eq_ok {ε' : Type u} {x : Except ε α} {relabel : ε → ε'} {a : α} :
    x.mapError relabel = .ok a ↔ x = .ok a := by
  cases x with
  | error e => simp [Except.mapError]
  | ok b => simp [Except.mapError]

theorem mapError_eq_error {ε' : Type u} {x : Except ε α} {relabel : ε → ε'} {e : ε'} :
    x.mapError relabel = .error e ↔ ∃ e', x = .error e' ∧ relabel e' = e := by
  cases x with
  | error e' => simp [Except.mapError]
  | ok b => simp [Except.mapError]

/-! ### Lists -/

theorem mapM_eq_ok {f : α → Except ε β} {xs : List α} {ys : List β} :
    xs.mapM f = .ok ys ↔ List.Forall₂ (fun x y => f x = .ok y) xs ys := by
  induction xs generalizing ys with
  | nil => cases ys <;> simp
  | cons x xs ih =>
    rw [List.mapM_cons, bind_eq_ok]
    constructor
    · rintro ⟨y, hy, h⟩
      obtain ⟨rest, hrest, h⟩ := bind_eq_ok.1 h
      rw [pure_eq_ok] at h
      subst h
      exact .cons hy (ih.1 hrest)
    · intro h
      cases h with
      | cons hy hrest => exact ⟨_, hy, bind_eq_ok.2 ⟨_, ih.2 hrest, rfl⟩⟩

theorem mapM_congr_of_forall₂ {α' : Type v} {f : α → Except ε β} {g : α' → Except ε β} {xs : List α} {ys : List α'}
    (h : List.Forall₂ (fun x y => f x = g y) xs ys) : xs.mapM f = ys.mapM g := by
  induction h with
  | nil => rfl
  | cons hxy _ ih => rw [List.mapM_cons, List.mapM_cons, hxy, ih]

theorem mem_mapM {f : α → Except ε β} {xs : List α} {ys : List β} (h : xs.mapM f = .ok ys) {y : β} :
    y ∈ ys ↔ ∃ x ∈ xs, f x = .ok y := by
  have hall := mapM_eq_ok.1 h
  clear h
  induction hall with
  | nil => simp
  | cons hz _ ih => simp [ih, hz, eq_comm]

theorem exists_mapM_ok {f : α → Except ε β} {xs : List α} :
    (∃ ys, xs.mapM f = .ok ys) ↔ ∀ x ∈ xs, ∃ y, f x = .ok y := by
  induction xs with
  | nil => simp
  | cons x xs ih =>
    rw [List.forall_mem_cons, ← ih]
    constructor
    · rintro ⟨ys, h⟩
      cases mapM_eq_ok.1 h with
      | cons hy hrest => exact ⟨⟨_, hy⟩, _, mapM_eq_ok.2 hrest⟩
    · rintro ⟨⟨y, hy⟩, ys, hys⟩
      exact ⟨y :: ys, mapM_eq_ok.2 (.cons hy (mapM_eq_ok.1 hys))⟩

/-- An optional part counts as a list of one element or none. -/
theorem mapM_option_eq_ok {f : α → Except ε β} {x : Option α} {y : Option β} :
    x.mapM f = .ok y ↔ List.Forall₂ (fun x y => f x = .ok y) x.toList y.toList := by
  cases x with
  | none => cases y <;> simp [Option.mapM_none]
  | some x =>
    have h : (some x).mapM f = (f x).map some := rfl
    rw [h, map_eq_ok]
    cases y <;> simp

/-- A list fails with the error of its first element that fails. -/
theorem mapM_eq_error {f : α → Except ε β} {xs : List α} {e : ε} :
    xs.mapM f = .error e ↔
      ∃ before x rest, xs = before ++ x :: rest ∧ (∀ y ∈ before, ∃ b, f y = .ok b) ∧ f x = .error e := by
  induction xs with
  | nil => simp
  | cons x xs ih =>
    rw [List.mapM_cons, bind_eq_error]
    constructor
    · rintro (hx | ⟨b, hx, h⟩)
      · exact ⟨[], x, xs, rfl, fun _ hy => absurd hy List.not_mem_nil, hx⟩
      · rcases bind_eq_error.1 h with h | ⟨_, _, h⟩
        · obtain ⟨before, y, rest, rfl, hbefore, hy⟩ := ih.1 h
          exact ⟨x :: before, y, rest, rfl, List.forall_mem_cons.2 ⟨⟨b, hx⟩, hbefore⟩, hy⟩
        · exact absurd h pure_ne_error
    · rintro ⟨before, y, rest, hsplit, hbefore, hy⟩
      cases before with
      | nil =>
        obtain ⟨rfl, rfl⟩ := List.cons.inj hsplit
        exact .inl hy
      | cons z before =>
        obtain ⟨rfl, rfl⟩ := List.cons.inj hsplit
        obtain ⟨⟨b, hb⟩, hbefore⟩ := List.forall_mem_cons.1 hbefore
        exact .inr ⟨b, hb, bind_eq_error.2 (.inl (ih.2 ⟨before, y, rest, rfl, hbefore, hy⟩))⟩

theorem exists_mapM_option_ok {f : α → Except ε β} {x : Option α} :
    (∃ y, x.mapM f = .ok y) ↔ ∀ a, x = some a → ∃ b, f a = .ok b := by
  cases x with
  | none => simp [Option.mapM_none]
  | some x =>
    have h : (some x).mapM f = (f x).map some := rfl
    simp [h, exists_map_ok]

theorem mapM_option_eq_error {f : α → Except ε β} {x : Option α} {e : ε} :
    x.mapM f = .error e ↔ ∃ a, x = some a ∧ f a = .error e := by
  cases x with
  | none => simp [Option.mapM_none]
  | some x =>
    have h : (some x).mapM f = (f x).map some := rfl
    simp [h, map_eq_error]

/-- A fold fails with the error of the first element that its state does not accept. -/
theorem foldlM_eq_error {f : β → α → Except ε β} {xs : List α} {b : β} {e : ε} :
    xs.foldlM f b = .error e ↔
      ∃ before x rest b', xs = before ++ x :: rest ∧ before.foldlM f b = .ok b' ∧ f b' x = .error e := by
  induction xs generalizing b with
  | nil => simp
  | cons x xs ih =>
    rw [List.foldlM_cons, bind_eq_error]
    constructor
    · rintro (hx | ⟨b', hx, h⟩)
      · exact ⟨[], x, xs, b, rfl, rfl, hx⟩
      · obtain ⟨before, y, rest, b'', rfl, hbefore, hy⟩ := ih.1 h
        exact ⟨x :: before, y, rest, b'', rfl, bind_eq_ok.2 ⟨b', hx, hbefore⟩, hy⟩
    · rintro ⟨before, y, rest, b'', hsplit, hbefore, hy⟩
      cases before with
      | nil =>
        obtain ⟨rfl, rfl⟩ := List.cons.inj hsplit
        obtain rfl := pure_eq_ok.1 hbefore
        exact .inl hy
      | cons z before =>
        obtain ⟨rfl, rfl⟩ := List.cons.inj hsplit
        obtain ⟨b', hx, hbefore⟩ := bind_eq_ok.1 hbefore
        exact .inr ⟨b', hx, ih.2 ⟨before, y, rest, b'', rfl, hbefore, hy⟩⟩

/-- Up to order, the same is collected from two lists if it is from the elements that stand for each other. -/
theorem flatMap_perm_of_forall₂ {γ : Type v} {R : α → β → Prop} {xs : List α} {ys : List β} {f : α → List γ}
    {g : β → List γ} (h : List.Forall₂ R xs ys) (hR : ∀ x y, R x y → (g y).Perm (f x)) :
    (ys.flatMap g).Perm (xs.flatMap f) := by
  induction h with
  | nil => exact .refl _
  | cons hxy _ ih =>
    rw [List.flatMap_cons, List.flatMap_cons]
    exact (hR _ _ hxy).append ih

end ContractLint.Outcome
