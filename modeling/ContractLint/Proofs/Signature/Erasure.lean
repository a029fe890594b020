import ContractLint.Proofs.Signature.Stability

/-! Paths made of segments. A well-formed path is written as segments with `::` between them. A segment is a name, which
may have arguments in brackets behind it, with or without a `::` of their own, or it is an `<impl ..>` segment.
Normalising such a path leaves out the arguments, each with its `::`, and keeps everything else as it is. -/

namespace ContractLint.Path

open CodePoint (char)

/-! ### Bracketed texts -/

/-- How many brackets a text closes behind the character `previous`. A `>` after `-` is an arrow and closes none. -/
def closings (previous : CodePoint) : List CodePoint → Nat
  | [] => 0
  | c :: cs => closings c cs + if c = '>' ∧ previous ≠ '-' then 1 else 0

/-- A text closes the brackets that it opens and `depth` more. -/
def Balances (depth : Nat) (previous : CodePoint) (cs : List CodePoint) : Prop :=
  depth + cs.count (char '<') = closings previous cs

instance (depth : Nat) (previous : CodePoint) (cs : List CodePoint) : Decidable (Balances depth previous cs) :=
  inferInstanceAs (Decidable (_ = _))

/-- A text that begins with `<` and whose brackets are balanced for the first time at its last character. -/
structure IsBracketed (cs : List CodePoint) : Prop where
  opens : cs.head? = some (char '<')
  balances : Balances 0 ' ' cs
  first : ∀ k < cs.length, Balances 0 ' ' (cs.take k) → k = 0

instance (cs : List CodePoint) : Decidable (IsBracketed cs) :=
  decidable_of_iff
    (cs.head? = some (char '<') ∧ Balances 0 ' ' cs ∧ ∀ k < cs.length, Balances 0 ' ' (cs.take k) → k = 0)
    ⟨fun h => ⟨h.1, h.2.1, h.2.2⟩, fun h => ⟨h.opens, h.balances, h.first⟩⟩

section Brackets

variable {d : Nat} {p c : CodePoint} {cs : List CodePoint}

theorem balances_nil : Balances d p [] ↔ d = 0 := Iff.rfl

theorem balances_up : Balances d p (char '<' :: cs) ↔ Balances (d + 1) '<' cs := by
  have hup : ¬ (char '<' = char '>' ∧ p ≠ '-') := fun h => absurd h.1 (by decide)
  rw [Balances, closings, if_neg hup, List.count_cons_self, Balances]
  omega

theorem balances_down (h : p ≠ '-') : Balances (d + 1) p (char '>' :: cs) ↔ Balances d '>' cs := by
  rw [Balances, closings, if_pos ⟨rfl, h⟩, List.count_cons_of_ne (by decide), Balances]
  omega

theorem balances_plain (hc : c ≠ '<') (arrow : c = '>' → p = '-') : Balances d p (c :: cs) ↔ Balances d c cs := by
  have h : ¬ (c = '>' ∧ p ≠ '-') := fun h => h.2 (arrow h.1)
  rw [Balances, closings, if_neg h, List.count_cons_of_ne hc, Balances]
  rfl

/-- A text closes where its brackets balance for the first time. -/
theorem closes_of_balances (hend : Balances (d + 1) p cs) (hfirst : ∀ k < cs.length, ¬ Balances (d + 1) p (cs.take k)) :
    Closes (d + 1) p cs := by
  induction cs generalizing d p with
  | nil => exact absurd (balances_nil.1 hend) (by omega)
  | cons c cs ih =>
    have hrest (k : Nat) (hk : k < cs.length) : ¬ Balances (d + 1) p (c :: cs.take k) :=
      hfirst (k + 1) (by simpa using hk)
    by_cases hc : c = '<'
    · subst hc
      exact .up (ih (balances_up.1 hend) fun k hk h => hrest k hk (balances_up.2 h))
    by_cases hp : c = '>' ∧ p ≠ '-'
    · obtain ⟨rfl, hp⟩ := hp
      cases d with
      | zero =>
        cases cs with
        | nil => exact .last hp
        | cons b cs => exact absurd ((balances_down hp).2 (balances_nil.2 rfl)) (hrest 0 (by simp))
      | succ d => exact .down hp (ih ((balances_down hp).1 hend) fun k hk h => hrest k hk ((balances_down hp).2 h))
    · have arrow : c = '>' → p = '-' := fun h => of_not_not fun hne => hp ⟨h, hne⟩
      exact .plain hc arrow
        (ih ((balances_plain hc arrow).1 hend) fun k hk h => hrest k hk ((balances_plain hc arrow).2 h))

theorem IsBracketed.exists_closes (h : IsBracketed cs) : ∃ body, cs = char '<' :: body ∧ Closes 1 '<' body := by
  obtain ⟨body, rfl⟩ : ∃ body, cs = char '<' :: body := List.head?_eq_some_iff.1 h.opens
  refine ⟨body, rfl, closes_of_balances (balances_up.1 h.balances) fun k hk hb => ?_⟩
  exact absurd (h.first (k + 1) (by simpa using hk) (balances_up.2 hb)) (by omega)

end Brackets

/-! ### Segments -/

/-- What an `<impl ..>` segment begins with. -/
def implStart : List CodePoint := [char '<', char 'i', char 'm', char 'p', char 'l', char ' ']

/-- A name is a run of letters, numerals and underscores. -/
structure Name where
  points : List CodePoint
  ne_nil : points ≠ []
  named : points.all (fun c => c.isAlphanumeric || c = '_') = true

/-- The arguments of a name, in brackets. -/
structure Arguments where
  points : List CodePoint
  bracketed : IsBracketed points
  not_impl : ¬ implStart <+: points

structure ImplSegment where
  points : List CodePoint
  bracketed : IsBracketed points
  impl : implStart <+: points

inductive Segment where
  | name (n : Name)
  /-- The arguments stand directly behind the name. -/
  | applied (n : Name) (args : Arguments)
  /-- A `::` stands between the name and its arguments. -/
  | turbofish (n : Name) (args : Arguments)
  | impl (s : ImplSegment)

def separator : List CodePoint := [char ':', char ':']

namespace Segment

def points : Segment → List CodePoint
  | .name n => n.points
  | .applied n args => n.points ++ args.points
  | .turbofish n args => n.points ++ separator ++ args.points
  | .impl s => s.points

/-- The segment without arguments. -/
def erased : Segment → Segment
  | .name n => .name n
  | .applied n _ => .name n
  | .turbofish n _ => .name n
  | .impl s => .impl s

end Segment

/-- The segments with `::` between them. -/
def pathPoints (segments : List Segment) : List CodePoint := separator.intercalate (segments.map Segment.points)

def pathText (segments : List Segment) : Text := ⟨pathPoints segments⟩

/-! ### The walk along a segment -/

section Walk

variable {pieces : List (List CodePoint)} {cs : List CodePoint}

/-- The pieces with each character of a text behind them. -/
def keep (cs : List CodePoint) (pieces : List (List CodePoint)) : List (List CodePoint) :=
  (cs.map fun c => [c]).reverse ++ pieces

theorem written_keep (cs : List CodePoint) (pieces : List (List CodePoint)) :
    written (keep cs pieces) = written pieces ++ cs := by
  induction cs generalizing pieces with
  | nil => simp [keep]
  | cons c cs ih =>
    have h : keep (c :: cs) pieces = keep cs ([c] :: pieces) := by simp [keep]
    rw [h, ih, written_cons, List.append_assoc, List.singleton_append]

/-- Characters that open no bracket are kept. -/
theorem walk_keep (h : char '<' ∉ cs) (rest : List CodePoint) :
    walk pieces 0 (cs ++ rest) = walk (keep cs pieces) 0 rest := by
  induction cs generalizing pieces with
  | nil => rfl
  | cons c cs ih =>
    rw [List.mem_cons, not_or] at h
    have hkeep : keep (c :: cs) pieces = keep cs ([c] :: pieces) := by simp [keep]
    rw [List.cons_append, walk_plain (Ne.symm h.1), ih h.2, hkeep]

/-- Whether a bracketed text is an `<impl ..>` segment does not depend on what follows it. -/
theorem isImpl_append_of_closes {body : List CodePoint} (h : Closes 1 '<' body) (rest : List CodePoint) :
    isImpl (body ++ rest) = isImpl body := by
  rw [Bool.eq_iff_iff, isImpl, isImpl, List.isPrefixOf_iff_prefix, List.isPrefixOf_iff_prefix]
  refine ⟨fun hi => ?_, fun hi => hi.trans (List.prefix_append _ _)⟩
  rcases List.prefix_or_prefix_of_prefix hi (List.prefix_append body rest) with hi | hshort
  · exact hi
  · -- a text that ends in a bracket is no part of `impl` and a blank
    obtain ⟨front, rfl⟩ := h.exists_append
    exact absurd (hshort.subset (List.mem_append_right front List.mem_cons_self)) (by decide)

theorem implStart_prefix_iff {body : List CodePoint} : implStart <+: char '<' :: body ↔ isImpl body = true := by
  rw [implStart, List.cons_prefix_cons, isImpl, List.isPrefixOf_iff_prefix]
  exact and_iff_right rfl

/-- Arguments are left out where they may stand, with the `::` in front of them. -/
theorem Arguments.walk_append (args : Arguments) (ht : takesArguments pieces = true) (rest : List CodePoint) :
    walk pieces 0 (args.points ++ rest) = walk (withoutSeparator pieces) 0 rest := by
  obtain ⟨body, hpoints, hclose⟩ := args.bracketed.exists_closes
  have hi : isImpl (body ++ rest) = false := by
    rw [isImpl_append_of_closes hclose, Bool.eq_false_iff]
    exact fun hi => args.not_impl (hpoints ▸ implStart_prefix_iff.2 hi)
  rw [hpoints, List.cons_append, walk_arguments hi ht, hclose.bracketLength_append, ← List.cons_append, List.drop_left]

theorem ImplSegment.walk_append (s : ImplSegment) (rest : List CodePoint) :
    walk pieces 0 (s.points ++ rest) = walk (s.points :: pieces) 0 rest := by
  obtain ⟨body, hpoints, hclose⟩ := s.bracketed.exists_closes
  have hi : isImpl (body ++ rest) = true := isImpl_append (implStart_prefix_iff.1 (hpoints ▸ s.impl)) rest
  rw [hpoints, List.cons_append, walk_segment hi, hclose.bracketLength_append, ← List.cons_append, List.take_left,
    List.drop_left]

theorem Name.isAlphanumeric_or (n : Name) {c : CodePoint} (hc : c ∈ n.points) : c.isAlphanumeric = true ∨ c = '_' := by
  simpa using List.all_eq_true.1 n.named c hc

theorem Name.not_mem {n : Name} {c : CodePoint} (hc : c.isAlphanumeric = false) (hu : c ≠ '_') : c ∉ n.points := by
  intro hmem
  have := n.isAlphanumeric_or hmem
  simp [hc, hu] at this

theorem Name.walk_append (n : Name) (rest : List CodePoint) :
    walk pieces 0 (n.points ++ rest) = walk (keep n.points pieces) 0 rest :=
  walk_keep (n.not_mem (by decide) (by decide)) rest

/-- Arguments may stand behind a name. -/
theorem Name.exists_keep (n : Name) (pieces : List (List CodePoint)) :
    ∃ c front, keep n.points pieces = [c] :: front ∧ endsName [c] = true ∧ c ≠ ':' := by
  obtain ⟨init, c, hpoints⟩ : ∃ init c, n.points = init ++ [c] := by
    rcases List.eq_nil_or_concat n.points with h | ⟨init, c, h⟩
    · exact absurd h n.ne_nil
    · exact ⟨init, c, by rw [h, List.concat_eq_append]⟩
  have hmem : c ∈ n.points := by simp [hpoints]
  refine ⟨c, keep init pieces, by simp [keep, hpoints], ?_, ?_⟩
  · simpa [endsName, Text.allAlphanumeric] using n.isAlphanumeric_or hmem
  · rintro rfl
    exact n.not_mem (by decide) (by decide) hmem

theorem Name.takesArguments_keep (n : Name) (pieces : List (List CodePoint)) :
    takesArguments (keep n.points pieces) = true := by
  obtain ⟨c, front, hkeep, hends, hc⟩ := n.exists_keep pieces
  rw [hkeep]
  unfold takesArguments
  split
  · rfl
  · next piece _ h => rwa [← (List.cons.inj h).1]
  · next h => cases h

theorem Name.withoutSeparator_keep (n : Name) (pieces : List (List CodePoint)) :
    withoutSeparator (keep n.points pieces) = keep n.points pieces := by
  obtain ⟨c, front, hkeep, hends, hc⟩ := n.exists_keep pieces
  rw [hkeep]
  unfold withoutSeparator
  split
  · next h => exact absurd (List.singleton_inj.1 (List.cons.inj h).1) hc
  · rfl

/-- The walk keeps of a segment what it is without arguments. -/
theorem Segment.exists_walk (s : Segment) (pieces : List (List CodePoint)) (rest : List CodePoint) :
    ∃ kept, walk pieces 0 (s.points ++ rest) = walk kept 0 rest ∧ written kept = written pieces ++ s.erased.points := by
  cases s with
  | name n => exact ⟨_, n.walk_append rest, written_keep n.points pieces⟩
  | applied n args =>
    refine ⟨keep n.points pieces, ?_, written_keep n.points pieces⟩
    rw [points, List.append_assoc, n.walk_append, args.walk_append (n.takesArguments_keep pieces),
      n.withoutSeparator_keep]
  | turbofish n args =>
    refine ⟨keep n.points pieces, ?_, written_keep n.points pieces⟩
    have hsep : keep separator (keep n.points pieces) = [char ':'] :: [char ':'] :: keep n.points pieces := rfl
    rw [points, List.append_assoc, List.append_assoc, n.walk_append, walk_keep (by decide), hsep,
      args.walk_append (by simp [takesArguments])]
    rfl
  | impl s => exact ⟨_, s.walk_append rest, written_cons s.points pieces⟩

theorem pathPoints_cons_cons (s t : Segment) (rest : List Segment) :
    pathPoints (s :: t :: rest) = s.points ++ (separator ++ pathPoints (t :: rest)) := by
  simp [pathPoints, List.intercalate_cons_cons]

theorem written_walk_pathPoints (segments : List Segment) (pieces : List (List CodePoint)) :
    written (walk pieces 0 (pathPoints segments)) = written pieces ++ pathPoints (segments.map Segment.erased) := by
  induction segments generalizing pieces with
  | nil => simp [pathPoints, walk]
  | cons s rest ih =>
    cases rest with
    | nil =>
      obtain ⟨kept, hwalk, hkept⟩ := s.exists_walk pieces []
      rw [List.append_nil] at hwalk
      simp [pathPoints, hwalk, walk, hkept]
    | cons t rest =>
      obtain ⟨kept, hwalk, hkept⟩ := s.exists_walk pieces (separator ++ pathPoints (t :: rest))
      rw [pathPoints_cons_cons, hwalk, walk_keep (by decide), ih, written_keep, hkept]
      simp only [List.map_cons, pathPoints_cons_cons, List.append_assoc]

end Walk

end ContractLint.Path

/-! ### No blanks at the ends -/

namespace ContractLint.Text

theorem isAlphanumeric_of_isBlank {c : Char} (h : isBlank c = true) : isAlphanumeric c = false := by
  obtain ⟨r, hr, hlo, hhi⟩ := inRanges_eq_true_iff.1 h
  have hall : ∀ r ∈ blankRanges, ∀ k < r.2 + 1 - r.1, isAlphanumeric (Char.ofNat (r.1 + k)) = false := by decide +kernel
  have hc := hall r hr (c.toNat - r.1) (by omega)
  rwa [Nat.add_sub_cancel' hlo, Char.ofNat_toNat] at hc

end ContractLint.Text

namespace ContractLint

theorem CodePoint.isAlphanumeric_of_isBlank {p : CodePoint} (h : p.isBlank = true) : p.isAlphanumeric = false := by
  cases p with
  | char c => exact Text.isAlphanumeric_of_isBlank h
  | surrogate offset => cases h

end ContractLint

namespace ContractLint.Text

/-- A text that begins and ends in code points that are no blanks. -/
structure IsTrimmed (cs : List CodePoint) : Prop where
  head : ∃ c, cs.head? = some c ∧ c.isBlank = false
  last : ∃ c, cs.getLast? = some c ∧ c.isBlank = false

theorem IsTrimmed.append {cs ds : List CodePoint} (hcs : IsTrimmed cs) (hds : IsTrimmed ds) (between : List CodePoint) :
    IsTrimmed (cs ++ (between ++ ds)) := by
  obtain ⟨c, hc, hblank⟩ := hcs.head
  obtain ⟨d, hd, hblank'⟩ := hds.last
  refine ⟨⟨c, ?_, hblank⟩, d, ?_, hblank'⟩
  · rw [List.head?_append, hc, Option.some_or]
  · rw [List.getLast?_append, List.getLast?_append, hd, Option.some_or, Option.some_or]

theorem IsTrimmed.trim_eq {cs : List CodePoint} (h : IsTrimmed cs) : trim cs = cs := by
  obtain ⟨c, hc, hblank⟩ := h.head
  obtain ⟨d, hd, hblank'⟩ := h.last
  obtain ⟨rest, rfl⟩ := List.head?_eq_some_iff.1 hc
  have hfront : (c :: rest).dropWhile CodePoint.isBlank = c :: rest := List.dropWhile_cons_of_neg (by simp [hblank])
  rw [Text.trim_eq, hfront, List.rdropWhile_eq_self_iff]
  intro hne
  rw [List.getLast?_eq_some_getLast hne] at hd
  simp [Option.some.inj hd, hblank']

end ContractLint.Text

namespace ContractLint.Path

open CodePoint (char)

theorem IsBracketed.isTrimmed {cs : List CodePoint} (h : IsBracketed cs) : Text.IsTrimmed cs := by
  obtain ⟨body, rfl, hclose⟩ := h.exists_closes
  obtain ⟨front, rfl⟩ := hclose.exists_append
  exact ⟨⟨'<', rfl, by decide⟩, '>', by rw [← List.cons_append, List.getLast?_concat], by decide⟩

theorem Name.isTrimmed (n : Name) : Text.IsTrimmed n.points := by
  have hblank (c : CodePoint) (hc : c ∈ n.points) : c.isBlank = false := by
    rw [Bool.eq_false_iff]
    intro hb
    have hnamed := n.isAlphanumeric_or hc
    rw [CodePoint.isAlphanumeric_of_isBlank hb] at hnamed
    obtain rfl : c = '_' := by simpa using hnamed
    exact absurd hb (by decide)
  refine ⟨⟨n.points.head n.ne_nil, List.head?_eq_some_head n.ne_nil, hblank _ (List.head_mem _)⟩,
    n.points.getLast n.ne_nil, List.getLast?_eq_some_getLast n.ne_nil, hblank _ (List.getLast_mem _)⟩

theorem Segment.isTrimmed_erased (s : Segment) : Text.IsTrimmed s.erased.points := by
  cases s with
  | name n => exact n.isTrimmed
  | applied n _ => exact n.isTrimmed
  | turbofish n _ => exact n.isTrimmed
  | impl s => exact s.bracketed.isTrimmed

theorem isTrimmed_pathPoints_erased (s : Segment) (rest : List Segment) :
    Text.IsTrimmed (pathPoints ((s :: rest).map Segment.erased)) := by
  induction rest generalizing s with
  | nil =>
    have h : pathPoints [s.erased] = s.erased.points := by simp [pathPoints]
    rw [List.map_singleton, h]
    exact s.isTrimmed_erased
  | cons t rest ih =>
    rw [List.map_cons, List.map_cons, pathPoints_cons_cons]
    exact s.isTrimmed_erased.append (ih t) separator

/-- Normalising a path of segments leaves out the arguments and nothing else. -/
theorem normalize_pathText (segments : List Segment) :
    normalize (pathText segments) = pathText (segments.map Segment.erased) := by
  have hwalk := written_walk_pathPoints segments []
  rw [written_nil, List.nil_append] at hwalk
  rw [normalize, pathText, normalizePoints_eq, hwalk, pathText]
  cases segments with
  | nil => rfl
  | cons s rest => rw [(isTrimmed_pathPoints_erased s rest).trim_eq]

example : ∃ segments : List Segment,
    pathText segments = "f64::<impl Fn(A) -> B>::Map<K, Vec<V>>::get_mut::<_>" ∧
      pathText (segments.map Segment.erased) = "f64::<impl Fn(A) -> B>::Map::get_mut" :=
  ⟨[.name ⟨"f64".toList, by decide, by decide⟩,
    .impl ⟨"<impl Fn(A) -> B>".toList, by decide, by decide⟩,
    .applied ⟨"Map".toList, by decide, by decide⟩ ⟨"<K, Vec<V>>".toList, by decide, by decide⟩,
    .turbofish ⟨"get_mut".toList, by decide, by decide⟩ ⟨"<_>".toList, by decide, by decide⟩], by decide, by decide⟩

end ContractLint.Path
