import ContractLint.Proofs.Signature.Erasure

/-! The extent of a bracketed text, and the jumps of the walk over such texts. A text that begins with `<` ends where it
has closed as many brackets as it has opened for the first time, or with the path if it never does. So it ends behind
its beginning and within the path. The walk along a path, which goes on by one character or jumps to the end of a
bracketed text, therefore moves on at every turn and comes to the end of the path. -/

namespace ContractLint.Path

open CodePoint (char)

/-! ### Counting brackets by position -/

/-- How many of the positions from `start` to `stop` meet a condition. -/
def countIn (start stop : Nat) (p : Nat → Bool) : Nat := (List.range' start (stop + 1 - start)).countP p

/-- Whether a bracket is opened at a position. -/
def opensAt (path : List CodePoint) (i : Nat) : Bool := path[i]? == some (char '<')

/-- Whether a bracket is closed at a position: a `>` stands there that is not directly behind a `-`. -/
def closesAt (path : List CodePoint) (i : Nat) : Bool :=
  path[i]? == some (char '>') && (i == 0 || path[i - 1]? != some (char '-'))

/-- From `start` to `stop` as many brackets are opened as are closed. -/
def Balanced (path : List CodePoint) (start stop : Nat) : Prop :=
  countIn start stop (opensAt path) = countIn start stop (closesAt path)

instance (path : List CodePoint) (start stop : Nat) : Decidable (Balanced path start stop) :=
  inferInstanceAs (Decidable (_ = _))

/-- Where the bracketed text ends that begins at `start`. -/
def bracketEnd (path : List CodePoint) (start : Nat) : Nat := start + bracketLength (path.drop start)

section Counting

variable {path : List CodePoint}

theorem countP_opensAt {start n : Nat} (h : start + n ≤ path.length) :
    (List.range' start n).countP (opensAt path) = ((path.drop start).take n).count (char '<') := by
  induction n generalizing start with
  | zero => simp
  | succ n ih =>
    have hstart : start < path.length := by omega
    rw [List.range'_succ, List.countP_cons, ih (by omega), List.drop_eq_getElem_cons hstart, List.take_succ_cons,
      List.count_cons]
    simp [opensAt, List.getElem?_eq_getElem hstart]

/-- The character `p` stands for the one in front of the first position, which decides whether a bracket can be closed
there. -/
theorem countP_closesAt {p : CodePoint} {start n : Nat} (hp : start = 0 ∨ path[start - 1]? ≠ some (char '-') ↔ p ≠ '-')
    (h : start + n ≤ path.length) :
    (List.range' start n).countP (closesAt path) = closings p ((path.drop start).take n) := by
  induction n generalizing start p with
  | zero => simp [closings]
  | succ n ih =>
    have hstart : start < path.length := by omega
    have hc : path[start]? = some path[start] := List.getElem?_eq_getElem hstart
    have hnext : start + 1 = 0 ∨ path[start + 1 - 1]? ≠ some (char '-') ↔ path[start] ≠ '-' := by simp [hc]
    rw [List.range'_succ, List.countP_cons, ih hnext (by omega), List.drop_eq_getElem_cons hstart, List.take_succ_cons,
      closings]
    simp [closesAt, hc, hp]

theorem countIn_add (start n : Nat) (p : Nat → Bool) :
    countIn start (start + n) p = (List.range' (start + 1) n).countP p + if p start then 1 else 0 := by
  rw [countIn, show start + n + 1 - start = n + 1 by omega, List.range'_succ, List.countP_cons]

/-- The brackets from the first one on are balanced at a position if the text behind it closes one more up to there than
it opens. -/
theorem balanced_iff {start n : Nat} (hstart : path[start]? = some (char '<')) (h : start + n < path.length) :
    Balanced path start (start + n) ↔ Balances 1 '<' ((path.drop (start + 1)).take n) := by
  have hbehind : start + 1 = 0 ∨ path[start + 1 - 1]? ≠ some (char '-') ↔ char '<' ≠ '-' := by simp [hstart]
  have hopens : opensAt path start = true := by simp [opensAt, hstart]
  have hcloses : closesAt path start = false := by simp [closesAt, hstart]
  rw [Balanced, countIn_add, countIn_add, countP_opensAt (by omega), countP_closesAt hbehind (by omega), hopens,
    hcloses, Balances]
  simp only [if_true, Bool.false_eq_true, if_false]
  omega

end Counting

/-! ### Where a bracketed text ends -/

theorem Closes.balances {d : Nat} {p : CodePoint} {cs : List CodePoint} (h : Closes d p cs) : Balances d p cs := by
  induction h with
  | last h => exact (balances_down h).2 rfl
  | down h _ ih => exact (balances_down h).2 ih
  | up _ ih => exact balances_up.2 ih
  | plain hc arrow _ ih => exact (balances_plain hc arrow).2 ih

section End

variable {path : List CodePoint} {start : Nat}

theorem drop_eq_of_opens (hstart : path[start]? = some (char '<')) :
    path.drop start = char '<' :: path.drop (start + 1) := by
  obtain ⟨hlt, hopen⟩ := List.getElem?_eq_some_iff.1 hstart
  rw [List.drop_eq_getElem_cons hlt, hopen]

theorem bracketEnd_eq (hstart : path[start]? = some (char '<')) :
    bracketEnd path start = start + closeLength 1 '<' (path.drop (start + 1)) + 1 := by
  rw [bracketEnd, drop_eq_of_opens hstart, bracketLength_cons]
  rfl

theorem lt_bracketEnd (hstart : path[start]? = some (char '<')) : start < bracketEnd path start := by
  rw [bracketEnd_eq hstart]
  omega

theorem bracketEnd_le (hstart : start ≤ path.length) : bracketEnd path start ≤ path.length := by
  have hle : bracketLength (path.drop start) ≤ (path.drop start).length := closeLength_le 0 ' ' _
  rw [List.length_drop] at hle
  rw [bracketEnd]
  omega

/-- Nothing is balanced at the opening bracket itself. -/
theorem not_balances_nil : ¬ Balances 1 '<' [] := by decide

/-- A bracketed text ends at the first position where its brackets are balanced. -/
theorem bracketEnd_of_first (hstart : path[start]? = some (char '<')) {k : Nat} (hk : start < k)
    (hlen : k < path.length) (hbal : Balanced path start k) (hfirst : ∀ j, start < j → j < k → ¬ Balanced path start j) :
    bracketEnd path start = k + 1 := by
  obtain ⟨n, rfl⟩ : ∃ n, k = start + n := ⟨k - start, by omega⟩
  have hbody : ((path.drop (start + 1)).take n).length = n := by
    rw [List.length_take, List.length_drop]
    omega
  have hclose : Closes 1 '<' ((path.drop (start + 1)).take n) := by
    apply closes_of_balances ((balanced_iff hstart hlen).1 hbal)
    intro j hj hb
    rw [hbody] at hj
    rw [List.take_take, Nat.min_eq_left (by omega)] at hb
    cases j with
    | zero => exact not_balances_nil hb
    | succ j => exact hfirst (start + (j + 1)) (by omega) (by omega) ((balanced_iff hstart (by omega)).2 hb)
  have hlength := hclose.closeLength_append ((path.drop (start + 1)).drop n)
  rw [List.take_append_drop, hbody] at hlength
  rw [bracketEnd_eq hstart, hlength]

/-- A bracketed text that is never balanced is all that there is. -/
theorem bracketEnd_of_not_balanced (hstart : path[start]? = some (char '<'))
    (hnever : ∀ k, start < k → k < path.length → ¬ Balanced path start k) : bracketEnd path start = path.length := by
  have hlt : start < path.length := (List.getElem?_eq_some_iff.1 hstart).1
  rw [bracketEnd_eq hstart]
  rcases closes_take_or_staysOpen 0 '<' (path.drop (start + 1)) with hclose | hopen
  · exfalso
    have hle := closeLength_le 1 '<' (path.drop (start + 1))
    rw [List.length_drop] at hle
    have hbal : Balances 1 '<' ((path.drop (start + 1)).take (closeLength 1 '<' (path.drop (start + 1)))) :=
      hclose.balances
    generalize closeLength 1 '<' (path.drop (start + 1)) = n at hle hbal
    cases n with
    | zero => exact not_balances_nil hbal
    | succ n => exact hnever (start + (n + 1)) (by omega) (by omega) ((balanced_iff hstart (by omega)).2 hbal)
  · have hlength : closeLength 1 '<' (path.drop (start + 1)) = (path.drop (start + 1)).length := hopen.closeLength_eq 0
    rw [hlength, List.length_drop]
    omega

end End

/-! ### The walk by jumps -/

/-- The walk at a position of the path, with the pieces that it has kept, the last first. -/
structure Cursor where
  pieces : List (List CodePoint) := []
  position : Nat := 0

namespace Cursor

/-- One turn of the walk, if the path goes on. An `<impl ..>` segment is kept and an argument list is left out, and the
walk jumps to their end; any other character is kept by itself. -/
def next (path : List CodePoint) (s : Cursor) : Option Cursor :=
  match path.drop s.position with
  | [] => none
  | c :: rest =>
    if c = '<' then
      let stop := bracketEnd path s.position
      if isImpl rest then some ⟨(path.take stop).drop s.position :: s.pieces, stop⟩
      else if takesArguments s.pieces then some ⟨withoutSeparator s.pieces, stop⟩
      else some ⟨[c] :: s.pieces, s.position + 1⟩
    else some ⟨[c] :: s.pieces, s.position + 1⟩

/-- What a turn does: it moves on within the path, and the rest of the walk stays the same. -/
structure Advances (path : List CodePoint) (s t : Cursor) : Prop where
  lt : s.position < t.position
  le : t.position ≤ path.length
  walk_eq : walk s.pieces 0 (path.drop s.position) = walk t.pieces 0 (path.drop t.position)

section Turn

variable {path : List CodePoint} {s t : Cursor}

/-- What the walk keeps or leaves out up to the end of a bracketed text. -/
theorem take_drop_bracketEnd (path : List CodePoint) (start : Nat) :
    (path.take (bracketEnd path start)).drop start = (path.drop start).take (bracketLength (path.drop start)) ∧
      path.drop (bracketEnd path start) = (path.drop start).drop (bracketLength (path.drop start)) := by
  rw [List.drop_take, List.drop_drop, bracketEnd, Nat.add_sub_cancel_left]
  exact ⟨rfl, rfl⟩

theorem advances_of_next (h : s.next path = some t) : Advances path s t := by
  cases hdrop : path.drop s.position with
  | nil => simp [next, hdrop] at h
  | cons c rest =>
    have hc : path[s.position]? = some c := by rw [← List.head?_drop, hdrop]; rfl
    have hlt : s.position < path.length := (List.getElem?_eq_some_iff.1 hc).1
    have hone (hwalk : walk s.pieces 0 (c :: rest) = walk ([c] :: s.pieces) 0 rest) :
        Advances path s ⟨[c] :: s.pieces, s.position + 1⟩ := by
      refine ⟨Nat.lt_succ_self _, hlt, ?_⟩
      rw [hdrop, hwalk, ← List.drop_drop, hdrop]
      rfl
    by_cases hopen : c = '<'
    · subst hopen
      obtain ⟨hkept, hbehind⟩ := take_drop_bracketEnd path s.position
      rw [hdrop] at hkept hbehind
      have hjump {pieces : List (List CodePoint)} (hwalk : walk s.pieces 0 (char '<' :: rest) =
          walk pieces 0 ((char '<' :: rest).drop (bracketLength (char '<' :: rest)))) :
          Advances path s ⟨pieces, bracketEnd path s.position⟩ := by
        refine ⟨lt_bracketEnd hc, bracketEnd_le (by omega), ?_⟩
        rw [hdrop, hwalk, hbehind]
      cases hi : isImpl rest with
      | true =>
        simp only [next, hdrop, hi, if_true, Option.some.injEq, hkept] at h
        exact h ▸ hjump (walk_segment hi)
      | false =>
        cases ht : takesArguments s.pieces with
        | true =>
          simp only [next, hdrop, hi, ht, if_true, Bool.false_eq_true, if_false, Option.some.injEq] at h
          exact h ▸ hjump (walk_arguments hi ht)
        | false =>
          simp only [next, hdrop, hi, ht, if_true, Bool.false_eq_true, if_false, Option.some.injEq] at h
          exact h ▸ hone (walk_bracket hi ht)
    · simp only [next, hdrop, if_neg hopen, Option.some.injEq] at h
      exact h ▸ hone (walk_plain hopen)

theorem walk_of_next_eq_none (h : s.next path = none) : walk s.pieces 0 (path.drop s.position) = s.pieces := by
  cases hdrop : path.drop s.position with
  | nil => rw [walk]
  | cons c rest =>
    simp only [next, hdrop] at h
    split_ifs at h

end Turn

/-- The walk comes from `s` to `t` in so many turns. -/
inductive Turns (path : List CodePoint) : Nat → Cursor → Cursor → Prop
  | zero (s : Cursor) : Turns path 0 s s
  | succ {n : Nat} {s t u : Cursor} (turn : s.next path = some t) (rest : Turns path n t u) : Turns path (n + 1) s u

/-- From every position the walk comes to an end, with at most one turn for each character, and what it has kept then
is what is left to be kept. -/
theorem exists_turns (path : List CodePoint) (s : Cursor) :
    ∃ n t, n ≤ path.length - s.position ∧ Turns path n s t ∧ t.next path = none ∧
      walk s.pieces 0 (path.drop s.position) = t.pieces := by
  -- the distance to the end of the path goes down with every turn
  induction hd : path.length - s.position using Nat.strong_induction_on generalizing s with
  | h d ih =>
    cases hnext : s.next path with
    | none => exact ⟨0, s, Nat.zero_le _, .zero s, hnext, walk_of_next_eq_none hnext⟩
    | some t =>
      have hadv := advances_of_next hnext
      have hlt := hadv.lt
      have hle := hadv.le
      obtain ⟨n, u, hn, hturns, hend, hwalk⟩ := ih _ (by omega) t rfl
      exact ⟨n + 1, u, by omega, .succ hnext hturns, hend, hadv.walk_eq.trans hwalk⟩

end Cursor

/-- A bracketed text ends behind the first position at which as many brackets have been closed as opened, or else with
the path, so always behind its beginning and within the path. The walk jumps to such ends, and it comes to the end of
every path: the normalised path is what it has kept there, less the blanks around it. -/
theorem bracketEnd_first_balanced (path : List CodePoint) :
    (∀ start, path[start]? = some (char '<') →
      (∀ k, start < k → k < path.length → Balanced path start k → (∀ j, start < j → j < k → ¬ Balanced path start j) →
        bracketEnd path start = k + 1) ∧
      ((∀ k, start < k → k < path.length → ¬ Balanced path start k) → bracketEnd path start = path.length) ∧
      start < bracketEnd path start ∧ bracketEnd path start ≤ path.length) ∧
    ∃ n s, n ≤ path.length ∧ Cursor.Turns path n ⟨[], 0⟩ s ∧ s.next path = none ∧
      normalizePoints path = Text.trim (written s.pieces) := by
  constructor
  · intro start hstart
    have hlt : start < path.length := (List.getElem?_eq_some_iff.1 hstart).1
    exact ⟨fun k hk hlen => bracketEnd_of_first hstart hk hlen, bracketEnd_of_not_balanced hstart, lt_bracketEnd hstart,
      bracketEnd_le (Nat.le_of_lt hlt)⟩
  · obtain ⟨n, s, hn, hturns, hend, hwalk⟩ := Cursor.exists_turns path ⟨[], 0⟩
    refine ⟨n, s, hn, hturns, hend, ?_⟩
    rw [normalizePoints_eq, ← hwalk]
    rfl

/-- A path whose first brackets have an arrow and another pair inside them, and whose last one is never closed. -/
def arrowPath : List CodePoint := ("f<A -> B<C>>::g<D" : Text).points

theorem bracketEnd_first_balanced_arrow :
    (arrowPath[1]? = some (char '<') ∧ Balanced arrowPath 1 11 ∧ bracketEnd arrowPath 1 = 12) ∧
    (arrowPath[15]? = some (char '<') ∧ ¬ Balanced arrowPath 15 16 ∧ bracketEnd arrowPath 15 = 17) := by
  have hfirst : ∀ j < 11, 1 < j → ¬ Balanced arrowPath 1 j := by decide
  have hnever : ∀ k < 17, 15 < k → ¬ Balanced arrowPath 15 k := by decide
  have hends := (bracketEnd_first_balanced arrowPath).1
  refine ⟨⟨rfl, by decide, ?_⟩, rfl, hnever 16 (by decide) (by decide), ?_⟩
  · exact (hends 1 rfl).1 11 (by decide) (by decide) (by decide) fun j hj hk => hfirst j hk hj
  · exact (hends 15 rfl).2.1 fun k hk hlen => hnever k hlen hk

end ContractLint.Path
