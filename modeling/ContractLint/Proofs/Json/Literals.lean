import ContractLint.Json.Reader
import ContractLint.Json.Writer

/-! Strings and integers in JSON text. Reading undoes the escape of every character: the short escapes, those by number,
the pairs of surrogates for characters beyond the basic plane, and the characters that stand for themselves. It undoes
the digits of every integer as well, as long as what follows them cannot go on with the number and the reader has no
lower limit on digits. Nothing but printable ASCII is written of either. -/

namespace ContractLint.Json

/-! ### Strings -/

theorem hexDigit?_digitChar : ∀ d < 16, hexDigit? (Nat.digitChar d) = some d := by
  decide

theorem hexUnit?_digits {u : Nat} (h : u < 0x10000) :
    hexUnit? (Nat.digitChar (u / 16 / 16 / 16 % 16)) (Nat.digitChar (u / 16 / 16 % 16))
      (Nat.digitChar (u / 16 % 16)) (Nat.digitChar (u % 16)) = some u := by
  simp only [hexUnit?, hexDigit?_digitChar _ (Nat.mod_lt _ (by decide : 0 < 16)), Option.bind_eq_bind, Option.bind_some,
    Option.pure_def, Option.some.injEq]
  omega

section

variable (start : List Char) {rest : List Char}

theorem string_plain {c : Char} (hquote : c ≠ '"') (hslash : c ≠ '\\') (hc : 0x1f < c.toNat) :
    string start (c :: rest) = prepend (.char c) (string start rest) := by
  rw [string]
  · rw [if_neg (by omega)]
  all_goals simp_all

theorem string_short {e c : Char} (he : shortEscape? e = some c) :
    string start ('\\' :: e :: rest) = prepend (.char c) (string start rest) := by
  have hu : e ≠ 'u' := by
    rintro rfl
    cases he
  rw [string]
  · rw [if_neg hu, he]
  all_goals simp_all

theorem string_unit {u : Nat} (hu : u < 0x10000) (hhigh : isHighSurrogate u = false) (hrest : rest ≠ []) :
    string start (unitEscape u ++ rest) = prepend (.ofUnit u) (string start rest) := by
  simp only [unitEscape, Text.hex, List.nil_append, List.cons_append]
  rw [string]
  simp [hexUnit?_digits hu, hhigh, hrest]

theorem string_pair {u u' : Nat} (hu : isHighSurrogate u) (hu' : isLowSurrogate u') (hrest : rest ≠ []) :
    string start (unitEscape u ++ unitEscape u' ++ rest) = prepend (.char (pairChar u u')) (string start rest) := by
  have h : u < 0x10000 := by
    simp only [isHighSurrogate, Bool.and_eq_true, decide_eq_true_eq] at hu
    omega
  have h' : u' < 0x10000 := by
    simp only [isLowSurrogate, Bool.and_eq_true, decide_eq_true_eq] at hu'
    omega
  simp only [unitEscape, Text.hex, List.nil_append, List.cons_append]
  rw [string]
  simp [hexUnit?_digits h, hexUnit?_digits h', hu, hu', hrest]

end

/-- Characters lie on either side of the surrogates. -/
theorem toNat_range (c : Char) : c.toNat < 0xd800 ∨ 0xe000 ≤ c.toNat ∧ c.toNat < 0x110000 := c.valid

theorem ofUnit_toNat (c : Char) : CodePoint.ofUnit c.toNat = .char c := by
  have := toNat_range c
  rw [CodePoint.ofUnit, dif_neg (by omega), Char.ofNat_toNat]

theorem pairChar_split {c : Char} (h : 0x10000 ≤ c.toNat) :
    pairChar (0xd800 + (c.toNat - 0x10000) / 0x400) (0xdc00 + (c.toNat - 0x10000) % 0x400) = c := by
  have hsum : 0x10000 + (0xd800 + (c.toNat - 0x10000) / 0x400 - 0xd800) * 0x400 +
      (0xdc00 + (c.toNat - 0x10000) % 0x400 - 0xdc00) = c.toNat := by omega
  rw [pairChar, hsum, Char.ofNat_toNat]

/-- Reading takes back the escape of a character. Some text has to follow, as it does inside quotes. -/
theorem string_escapedChar (start : List Char) (c : Char) {rest : List Char} (hrest : rest ≠ []) :
    string start (escapedChar c ++ rest) = prepend (.char c) (string start rest) := by
  fun_cases escapedChar c with
  | case1 h =>
    rcases (by simpa using h : c = '"' ∨ c = '\\') with rfl | rfl <;> exact string_short start rfl
  | case2 | case3 | case4 | case5 | case6 =>
    subst c
    exact string_short start rfl
  | case7 h _ _ _ _ _ hprint =>
    simp only [Bool.or_eq_true, decide_eq_true_eq, not_or, Bool.and_eq_true] at h hprint
    exact string_plain start h.1 h.2 (by omega)
  | case8 _ _ _ _ _ _ _ hbasic =>
    have hhigh : isHighSurrogate c.toNat = false := by
      have := toNat_range c
      simp only [isHighSurrogate, Bool.and_eq_false_iff, decide_eq_false_iff_not]
      omega
    rw [string_unit start hbasic hhigh hrest, ofUnit_toNat]
  | case9 _ _ _ _ _ _ _ hbasic n =>
    have := toNat_range c
    have hhigh : isHighSurrogate (0xd800 + n / 0x400) := by
      simp only [isHighSurrogate, Bool.and_eq_true, decide_eq_true_eq]
      omega
    have hlow : isLowSurrogate (0xdc00 + n % 0x400) := by
      simp only [isLowSurrogate, Bool.and_eq_true, decide_eq_true_eq]
      omega
    rw [string_pair start hhigh hlow hrest, pairChar_split (by omega)]

/-- Reading takes back a string up to its closing quote. -/
theorem string_escaped (start : List Char) (s : String) (rest : List Char) :
    string start ((s : Text).points.flatMap escapedPoint ++ '"' :: rest) = .ok ((s : Text).points, rest) := by
  simp only [Text.ofString, Text.ofChars]
  induction s.toList with
  | nil => rfl
  | cons c cs ih =>
    rw [List.map_cons, List.flatMap_cons, List.append_assoc, escapedPoint, string_escapedChar start c (by simp), ih]
    rfl

/-! ### Integers -/

/-- A text that does not go on with a number in front of it. -/
def Ends (rest : List Char) : Prop := ∀ c ∈ rest.head?, c.isDigit = false ∧ c ≠ '.' ∧ c ≠ 'e' ∧ c ≠ 'E'

/-- The decimal digits of an integer, without its sign. -/
def digitsOf (n : Int) : List Char := Nat.toDigits 10 n.natAbs

/-- The decimal text of an integer. -/
def decimal (n : Int) : List Char := (toString n).toList

/-- Whether an integer has no more digits than a limit allows. -/
def Fits (limit : Option Nat) (n : Int) : Prop := ∀ m ∈ limit, (digitsOf n).length ≤ m

/-- The integers with at most so many digits lie below a power of ten. -/
theorem fits_some_iff {m : Nat} (hm : 0 < m) {n : Int} : Fits (some m) n ↔ n.natAbs < Nat.pow 10 m := by
  have hlength : (digitsOf n).length ≤ m ↔ n.natAbs < Nat.pow 10 m := Nat.length_toDigits_le_iff (by decide) hm
  rw [Fits, ← hlength]
  simp

theorem not_fits_pow {m : Nat} (hm : 0 < m) : ¬ Fits (some m) (Nat.pow 10 m : Nat) := by
  rw [fits_some_iff hm, Int.natAbs_natCast]
  exact Nat.lt_irrefl _

theorem integerText_of_fits {limit : Option Nat} {n : Int} (h : Fits limit n) :
    integerText limit n = .ok (decimal n) := by
  cases limit with
  | none => rfl
  | some most => exact if_neg (Nat.not_lt.2 (h most rfl))

/-- Only an integer of too many digits is refused, and the limit is reported. -/
theorem integerText_of_not_fits {limit : Option Nat} {n : Int} (h : ¬ Fits limit n) :
    ∃ most ∈ limit, integerText limit n = .error ⟨most⟩ := by
  cases limit with
  | none => exact absurd (fun _ hm => by cases hm) h
  | some most =>
    refine ⟨most, rfl, if_pos (Nat.not_le.1 fun hle => h fun m hm => ?_)⟩
    cases hm
    exact hle

theorem decimal_eq (n : Int) : decimal n = (if n < 0 then ['-'] else []) ++ digitsOf n := by
  rw [decimal, Int.toString_eq_repr, Int.repr_eq_if, digitsOf]
  by_cases h : n < 0
  · rw [if_neg (by omega), if_pos h, String.toList_append, Nat.toList_repr, show (-n).toNat = n.natAbs by omega]
    rfl
  · rw [if_pos (by omega), if_neg h, Nat.toList_repr, show n.toNat = n.natAbs by omega]
    rfl

theorem spelled_digitValues (n : Nat) : Text.spelled (Number.digitValues (Nat.toDigits 10 n)) = n := by
  have h := Nat.ofDigitChars_ten_toDigits (n := n)
  rw [Nat.ofDigitChars_eq_foldl] at h
  rw [Text.spelled, Number.digitValues, List.foldl_map]
  exact h

/-- Only the digits of zero begin with a zero. -/
theorem exists_toDigits_eq_cons (n : Nat) :
    ∃ c cs, Nat.toDigits 10 n = c :: cs ∧ c.isDigit = true ∧ (c = '0' → n = 0) := by
  induction n using Nat.strongRecOn with
  | ind n ih =>
    by_cases h : n < 10
    · exact ⟨n.digitChar, [], Nat.toDigits_of_lt_base h, by simpa [Nat.isDigit_digitChar] using h,
        Nat.digitChar_eq_zero.1⟩
    · obtain ⟨c, cs, hcs, hc, hzero⟩ := ih (n / 10) (by omega)
      rw [Nat.toDigits_of_base_le (by decide) (by omega), hcs]
      refine ⟨c, _, rfl, hc, fun h0 => ?_⟩
      have := hzero h0
      omega

theorem exists_decimal_eq_cons (n : Int) : ∃ c cs, decimal n = c :: cs ∧ (c = '-' ∨ c.isDigit = true) := by
  obtain ⟨c, cs, hcs, hc, -⟩ := exists_toDigits_eq_cons n.natAbs
  rw [decimal_eq, digitsOf, hcs]
  by_cases h : n < 0
  · exact ⟨'-', c :: cs, by rw [if_pos h]; rfl, .inl rfl⟩
  · exact ⟨c, cs, by rw [if_neg h]; rfl, .inr hc⟩

theorem spanDigits_append {digits rest : List Char} (hdigits : ∀ c ∈ digits, c.isDigit = true) (hrest : Ends rest) :
    Number.spanDigits (digits ++ rest) = (digits, rest) := by
  have hhead : rest.takeWhile Char.isDigit = [] ∧ rest.dropWhile Char.isDigit = rest := by
    cases rest with
    | nil => simp
    | cons c cs => simp [(hrest c rfl).1]
  simp [Number.spanDigits, List.takeWhile_append_of_pos hdigits, List.dropWhile_append_of_pos hdigits, hhead]

theorem whole?_digitsOf (n : Int) {rest : List Char} (hrest : Ends rest) :
    whole? (digitsOf n ++ rest) = some (digitsOf n, rest) := by
  have hdigits (c : Char) (hc : c ∈ digitsOf n) : c.isDigit = true :=
    Nat.isDigit_of_mem_toDigits (by decide) (by decide) hc
  have hspan := spanDigits_append hdigits hrest
  obtain ⟨c, cs, hcs, -, hzero⟩ := exists_toDigits_eq_cons n.natAbs
  by_cases h : c = '0'
  · rw [digitsOf, hzero h, Nat.toDigits_zero, List.singleton_append, whole?]
  · rw [digitsOf, hcs, List.cons_append] at hspan ⊢
    rw [whole?]
    · simp [hspan]
    · simp [h]

theorem fraction?_of_ends {rest : List Char} (hrest : Ends rest) : fraction? rest = none := by
  rw [fraction?]
  rintro cs rfl
  exact (hrest '.' rfl).2.1 rfl

theorem exponent?_of_ends {rest : List Char} (hrest : Ends rest) : exponent? rest = none := by
  cases rest with
  | nil => rfl
  | cons c cs => simp [exponent?, (hrest c rfl).2]

theorem integer_digitsOf {limit : Option Nat} {n : Int} (hn : Fits limit n) (negative : Bool) :
    integer limit negative (digitsOf n) = .ok (.int (Double.signed negative n.natAbs)) := by
  have hshort : ¬limit.any (· < (digitsOf n).length) = true := by
    simp only [Option.any_eq_true, decide_eq_true_eq, not_exists, not_and, Nat.not_lt]
    exact hn
  rw [integer, if_neg hshort, digitsOf, spelled_digitValues]

theorem signed_natAbs (n : Int) : Double.signed (decide (n < 0)) n.natAbs = n := by
  simp only [Double.signed, decide_eq_true_eq]
  split <;> omega

/-- Reading takes back an integer. -/
theorem number_decimal {limit : Option Nat} {n : Int} (hn : Fits limit n) {rest : List Char} (hrest : Ends rest) :
    number limit (decimal n ++ rest) = .ok (.int n, rest) := by
  have hwhole := whole?_digitsOf n hrest
  have hfraction := fraction?_of_ends hrest
  have hexponent := exponent?_of_ends hrest
  have hsigned := signed_natAbs n
  rw [decimal_eq]
  by_cases h : n < 0
  · rw [decide_eq_true h] at hsigned
    rw [if_pos h, List.singleton_append, List.cons_append, number]
    simp [hwhole, hfraction, hexponent, integer_digitsOf hn, hsigned, Except.map]
  · rw [decide_eq_false h] at hsigned
    rw [if_neg h, List.nil_append, number]
    · simp [hwhole, hfraction, hexponent, integer_digitsOf hn, hsigned, Except.map]
    · -- a digit stands in front, so there is no sign
      obtain ⟨c, cs, hcs, hc, -⟩ := exists_toDigits_eq_cons n.natAbs
      rintro more heq
      rw [digitsOf, hcs, List.cons_append, List.cons.injEq] at heq
      rw [heq.1] at hc
      cases hc

/-- No integer is taken for a name. -/
theorem named?_decimal (n : Int) (rest : List Char) : named? (decimal n ++ rest) = none := by
  obtain ⟨c, cs, hcs, hc, -⟩ := exists_toDigits_eq_cons n.natAbs
  have hne (d : Char) (hd : d.isDigit = false) : d ≠ c := by
    rintro rfl
    rw [hc] at hd
    cases hd
  rw [decimal_eq, digitsOf, hcs]
  by_cases h : n < 0 <;> simp [h, named?, names, after?, hne]

/-! ### Printable ASCII -/

/-- Whether a character is printable ASCII. -/
def IsVisible (c : Char) : Prop := 32 ≤ c.toNat ∧ c.toNat < 127

instance (c : Char) : Decidable (IsVisible c) := inferInstanceAs (Decidable (_ ∧ _))

theorem isVisible_of_isDigit {c : Char} (h : c.isDigit = true) : IsVisible c := by
  rw [Char.isDigit_iff_toNat] at h
  exact ⟨Nat.le_trans (by decide) h.1, Nat.lt_of_le_of_lt h.2 (by decide)⟩

theorem isVisible_digitChar : ∀ d < 16, IsVisible (Nat.digitChar d) := by
  decide

theorem isVisible_hex (width n : Nat) : ∀ c ∈ Text.hex width n, IsVisible c := by
  induction width generalizing n with
  | zero => simp [Text.hex]
  | succ width ih =>
    simp only [Text.hex, List.mem_append, List.mem_singleton]
    rintro c (hc | rfl)
    · exact ih _ c hc
    · exact isVisible_digitChar _ (Nat.mod_lt _ (by decide))

theorem isVisible_unitEscape (u : Nat) : ∀ c ∈ unitEscape u, IsVisible c :=
  List.forall_mem_cons.2 ⟨by decide, List.forall_mem_cons.2 ⟨by decide, isVisible_hex 4 u⟩⟩

theorem isVisible_shortEscape {e : Char} (he : IsVisible e) : ∀ c ∈ ['\\', e], IsVisible c :=
  List.forall_mem_cons.2 ⟨by decide, List.forall_mem_singleton.2 he⟩

theorem isVisible_escapedChar (c : Char) : ∀ d ∈ escapedChar c, IsVisible d := by
  fun_cases escapedChar c with
  | case1 h =>
    rcases (by simpa using h : c = '"' ∨ c = '\\') with rfl | rfl <;> exact isVisible_shortEscape (by decide)
  | case2 | case3 | case4 | case5 | case6 => exact isVisible_shortEscape (by decide)
  | case7 _ _ _ _ _ _ hprint =>
    simp only [Bool.and_eq_true, decide_eq_true_eq] at hprint
    exact List.forall_mem_singleton.2 hprint
  | case8 => exact isVisible_unitEscape _
  | case9 =>
    intro d hd
    rcases List.mem_append.1 hd with hd | hd <;> exact isVisible_unitEscape _ d hd

theorem isVisible_stringText (t : Text) : ∀ c ∈ stringText t, IsVisible c := by
  simp only [stringText, List.cons_append, List.mem_cons, List.mem_append, List.mem_flatMap, List.not_mem_nil, or_false]
  rintro c (rfl | ⟨p, -, hc⟩ | rfl)
  · decide
  · cases p with
    | char d => exact isVisible_escapedChar d c hc
    | surrogate offset => exact isVisible_unitEscape _ c hc
  · decide

theorem isVisible_decimal (n : Int) : ∀ c ∈ decimal n, IsVisible c := by
  intro c hc
  rw [decimal_eq, List.mem_append] at hc
  rcases hc with hc | hc
  · split at hc
    · rw [List.mem_singleton.1 hc]
      decide
    · cases hc
  · exact isVisible_of_isDigit (Nat.isDigit_of_mem_toDigits (by decide) (by decide) hc)

end ContractLint.Json
