import Mathlib.Data.List.Forall2
import ContractLint.Proofs.Assoc
import ContractLint.Proofs.Json.Literals
import ContractLint.Proofs.Outcome

/-! The text of a value is read back as the value. This holds of all values without floating-point numbers, surrogates
on their own and repeated keys, at any depth; their integers have to fit the limit of writer and reader. The text is
one line of printable ASCII. A value with an integer that does not fit has no text. The reader counts its calls, so each
step below also says how many it needs: two for each character, and one more for the items of a collection. -/

namespace ContractLint.Json

/-- Values that have a text within the given limit and are taken back from it. -/
inductive Plain (limit : Option Nat) : Value → Prop where
  | null : Plain limit .null
  | bool (b : Bool) : Plain limit (.bool b)
  | int {n : Int} (hn : Fits limit n) : Plain limit (.int n)
  | string (s : String) : Plain limit (.ofString s)
  | array {vs : List Value} (hvs : ∀ v ∈ vs, Plain limit v) : Plain limit (.array vs)
  | record {fields : List (String × Value)} (hkeys : (fields.map Prod.fst).Nodup)
      (hfields : ∀ f ∈ fields, Plain limit f.2) : Plain limit (.record fields)

/-! ### Where a value begins -/

/-- The characters that a value can begin with. -/
def startsValue (c : Char) : Bool := c.isDigit || c ∈ ['-', '"', '[', '\x7b', 'n', 't', 'f']

theorem isSpace_of_startsValue {c : Char} (h : startsValue c = true) : isSpace c = false := by
  rw [← Bool.not_eq_true]
  intro hspace
  simp only [isSpace, Bool.or_eq_true, decide_eq_true_eq] at hspace
  rcases hspace with ((rfl | rfl) | rfl) | rfl <;> cases h

/-- A text that begins as a value does. -/
def Opens (cs : List Char) : Prop := ∃ c rest, cs = c :: rest ∧ startsValue c = true

namespace Opens

variable {cs : List Char}

theorem skip_append (h : Opens cs) (rest : List Char) : skip (cs ++ rest) = cs ++ rest := by
  obtain ⟨c, cs, rfl, hc⟩ := h
  simp [skip, isSpace_of_startsValue hc]

theorem append_ne_cons (h : Opens cs) {c : Char} (hc : startsValue c = false) (rest more : List Char) :
    cs ++ rest ≠ c :: more := by
  obtain ⟨d, cs, rfl, hd⟩ := h
  intro heq
  rw [List.cons_append, List.cons.injEq] at heq
  rw [heq.1, hc] at hd
  cases hd

end Opens

/-- A text that is read as a value, whatever follows that cannot go on with a number. -/
structure Reads (limit : Option Nat) (v : Value) (cs : List Char) : Prop where
  opens : Opens cs
  value_append : ∀ {fuel : Nat} {rest : List Char}, 2 * cs.length ≤ fuel → Ends rest →
    value limit fuel (cs ++ rest) = .ok (v, rest)

variable {limit : Option Nat}

theorem Reads.of_step {v : Value} {cs : List Char} (hopens : Opens cs)
    (hstep : ∀ (fuel : Nat) (rest : List Char), 2 * cs.length ≤ fuel + 1 → Ends rest →
      value limit (fuel + 1) (cs ++ rest) = .ok (v, rest)) : Reads limit v cs := by
  refine ⟨hopens, fun {fuel rest} hfuel hrest => ?_⟩
  cases fuel with
  | zero =>
    obtain ⟨c, cs, rfl, -⟩ := hopens
    simp at hfuel
  | succ fuel => exact hstep fuel rest hfuel hrest

/-! ### Names, integers and strings -/

theorem reads_null : Reads limit .null "null".toList := by
  refine .of_step ⟨'n', ['u', 'l', 'l'], by simp, by decide⟩ fun fuel rest _ _ => ?_
  simp [value, named?, names, after?]

theorem reads_bool (b : Bool) : Reads limit (.bool b) (if b then "true" else "false").toList := by
  refine .of_step ?_ fun fuel rest _ _ => ?_
  · cases b
    · exact ⟨'f', ['a', 'l', 's', 'e'], by simp, by decide⟩
    · exact ⟨'t', ['r', 'u', 'e'], by simp, by decide⟩
  · cases b <;> simp [value, named?, names, after?]

theorem reads_int {n : Int} (hn : Fits limit n) : Reads limit (.int n) (decimal n) := by
  obtain ⟨c, cs, hcs, hc⟩ := exists_decimal_eq_cons n
  have hopens : Opens (decimal n) := ⟨c, cs, hcs, by rcases hc with rfl | hc <;> simp [startsValue, *]⟩
  refine .of_step hopens fun fuel rest _ hrest => ?_
  rw [value]
  · rw [named?_decimal, number_decimal hn hrest]
  all_goals
    -- neither a quote nor a bracket is a sign or a digit
    intro more heq
    rw [hcs, List.cons_append, List.cons.injEq] at heq
    rw [heq.1] at hc
    rcases hc with hc | hc <;> cases hc

theorem reads_string (s : String) : Reads limit (.ofString s) (stringText s) := by
  refine .of_step ⟨'"', _, rfl, by decide⟩ fun fuel rest _ _ => ?_
  simp [value, Value.ofString, stringText, string_escaped, bind, Except.bind, pure, Except.pure]

/-! ### Items of collections -/

theorem skip_blank {cs : List Char} (hcs : skip cs = cs) : skip (' ' :: cs) = cs := hcs

theorem separator_comma (close : Char) {cs : List Char} (hcs : skip cs = cs) :
    separator close (',' :: ' ' :: cs) = .ok (true, cs) := by
  have hcomma : skip (',' :: ' ' :: cs) = ',' :: ' ' :: cs := rfl
  simp only [separator, hcomma, if_true, skip_blank hcs]

@[simp] theorem listed_singleton (cs : List Char) : listed [cs] = cs := List.intercalate_singleton

theorem listed_cons_cons (cs ds : List Char) (more : List (List Char)) :
    listed (cs :: ds :: more) = cs ++ ',' :: ' ' :: listed (ds :: more) := by
  simp [listed, List.intercalate_cons_cons]

theorem opens_listed {cs : List Char} (h : Opens cs) (more : List (List Char)) : Opens (listed (cs :: more)) := by
  obtain ⟨c, cs, rfl, hc⟩ := h
  cases more with
  | nil => exact ⟨c, cs, listed_singleton _, hc⟩
  | cons ds more => exact ⟨c, _, by rw [listed_cons_cons, List.cons_append], hc⟩

theorem isVisible_listed {items : List (List Char)} (h : ∀ cs ∈ items, ∀ c ∈ cs, IsVisible c) :
    ∀ c ∈ listed items, IsVisible c := by
  induction items with
  | nil => simp [listed]
  | cons cs items ih =>
    have hcs := h cs List.mem_cons_self
    cases items with
    | nil => rwa [listed_singleton]
    | cons ds items =>
      have hitems := ih fun x hx => h x (List.mem_cons_of_mem _ hx)
      simp only [listed_cons_cons, List.mem_append, List.mem_cons]
      rintro c (hc | rfl | rfl | hc)
      exacts [hcs c hc, by decide, by decide, hitems c hc]

/-- What stands between two brackets is visible if the items are. -/
theorem isVisible_enclosed {left right : Char} (hleft : IsVisible left) (hright : IsVisible right)
    {items : List (List Char)} (h : ∀ cs ∈ items, ∀ c ∈ cs, IsVisible c) :
    ∀ c ∈ left :: listed items ++ [right], IsVisible c := by
  simp only [List.cons_append, List.mem_cons, List.mem_append, List.not_mem_nil, or_false]
  rintro c (rfl | hc | rfl)
  exacts [hleft, isVisible_listed h c hc, hright]

/-! ### Arrays -/

theorem elements_listed {vs : List Value} {texts : List (List Char)} (hne : vs ≠ [])
    (h : List.Forall₂ (Reads limit) vs texts) {fuel : Nat} {rest : List Char}
    (hfuel : 2 * (listed texts).length < fuel) :
    elements limit fuel (listed texts ++ ']' :: rest) = .ok (vs, rest) := by
  induction h generalizing fuel with
  | nil => exact absurd rfl hne
  | @cons v cs vs texts hv hvs ih =>
    obtain ⟨fuel, rfl⟩ := Nat.exists_eq_add_one.2 (Nat.zero_lt_of_lt hfuel)
    cases hvs with
    | nil =>
      rw [listed_singleton] at hfuel ⊢
      rw [elements, hv.value_append (by omega) (by simp [Ends])]
      rfl
    | @cons w ds vs texts hw hvs =>
      rw [listed_cons_cons, List.length_append, List.length_cons, List.length_cons] at hfuel
      have hskip := (opens_listed hw.opens texts).skip_append (']' :: rest)
      have hmore : elements limit fuel (listed (ds :: texts) ++ ']' :: rest) = .ok (w :: vs, rest) :=
        ih (by simp) (by omega)
      rw [listed_cons_cons, List.append_assoc, List.cons_append, List.cons_append, elements,
        hv.value_append (by omega) (by simp [Ends])]
      simp only [bind, Except.bind, separator_comma ']' hskip, if_true, hmore, pure, Except.pure]

theorem reads_array {vs : List Value} {texts : List (List Char)} (h : List.Forall₂ (Reads limit) vs texts) :
    Reads limit (.array vs) ('[' :: listed texts ++ [']']) := by
  refine .of_step ⟨'[', _, by rw [List.cons_append], by decide⟩ fun fuel rest hfuel _ => ?_
  cases h with
  | nil => rfl
  | @cons v cs vs texts hv hvs =>
    simp only [List.cons_append, List.append_assoc, List.nil_append, List.length_cons, List.length_append] at hfuel ⊢
    have hopens := opens_listed hv.opens texts
    have hread : elements limit fuel (listed (cs :: texts) ++ ']' :: rest) = .ok (v :: vs, rest) :=
      elements_listed (by simp) (.cons hv hvs) (by omega)
    rw [value, hopens.skip_append]
    split
    · next heq => exact absurd heq (hopens.append_ne_cons (by decide) _ _)
    · simp only [hread, bind, Except.bind, pure, Except.pure]

/-! ### Objects -/

/-- A text that is read as a field: a string for its key, a colon and the text of its value. -/
def ReadsField (limit : Option Nat) (f : Text × Value) (cs : List Char) : Prop :=
  ∃ (s : String) (ds : List Char), f.1 = s ∧ Reads limit f.2 ds ∧ cs = fieldText s ds

theorem fieldText_eq (key : Text) (cs : List Char) : fieldText key cs = stringText key ++ ':' :: ' ' :: cs := by
  simp [fieldText]

theorem ReadsField.opens {f : Text × Value} {cs : List Char} (h : ReadsField limit f cs) : Opens cs := by
  obtain ⟨s, ds, -, -, rfl⟩ := h
  exact ⟨'"', _, by rw [fieldText_eq]; rfl, by decide⟩

theorem key_stringText (s : String) {cs : List Char} (hcs : skip cs = cs) :
    key (stringText s ++ ':' :: ' ' :: cs) = .ok ((s : Text), cs) := by
  have hcolon : skip (':' :: ' ' :: cs) = ':' :: ' ' :: cs := rfl
  simp only [stringText, List.cons_append, List.append_assoc, List.nil_append, key, string_escaped, bind, Except.bind,
    hcolon, skip_blank hcs, pure, Except.pure]

theorem members_listed {fields : List (Text × Value)} {texts : List (List Char)} (hne : fields ≠ [])
    (h : List.Forall₂ (ReadsField limit) fields texts) {fuel : Nat} {rest : List Char}
    (hfuel : 2 * (listed texts).length < fuel) :
    members limit fuel (listed texts ++ '\x7d' :: rest) = .ok (fields, rest) := by
  induction h generalizing fuel with
  | nil => exact absurd rfl hne
  | @cons f cs fields texts hf hfields ih =>
    obtain ⟨fuel, rfl⟩ := Nat.exists_eq_add_one.2 (Nat.zero_lt_of_lt hfuel)
    obtain ⟨key, v⟩ := f
    obtain ⟨s, ds, rfl, hv, rfl⟩ := hf
    cases hfields with
    | nil =>
      rw [listed_singleton, fieldText_eq, List.length_append, List.length_cons, List.length_cons] at hfuel
      have hvalue : value limit fuel (ds ++ '\x7d' :: rest) = .ok (v, '\x7d' :: rest) :=
        hv.value_append (by omega) (by simp [Ends])
      rw [listed_singleton, fieldText_eq, List.append_assoc, List.cons_append, List.cons_append, members,
        key_stringText s (hv.opens.skip_append _)]
      simp only [bind, Except.bind, hvalue]
      rfl
    | @cons g es fields texts hg hfields =>
      simp only [listed_cons_cons, fieldText_eq, List.length_append, List.length_cons] at hfuel
      have hskip := (opens_listed hg.opens texts).skip_append ('\x7d' :: rest)
      have hmore : members limit fuel (listed (es :: texts) ++ '\x7d' :: rest) = .ok (g :: fields, rest) :=
        ih (by simp) (by omega)
      rw [listed_cons_cons, fieldText_eq, List.append_assoc, List.append_assoc, List.cons_append, List.cons_append,
        members, key_stringText s (hv.opens.skip_append _)]
      simp only [bind, Except.bind, List.cons_append]
      rw [hv.value_append (by omega) (by simp [Ends])]
      simp only [separator_comma '\x7d' hskip, if_true, hmore, pure, Except.pure]

theorem reads_object {fields : List (Text × Value)} {texts : List (List Char)}
    (hdistinct : (fields.map Prod.fst).Nodup) (h : List.Forall₂ (ReadsField limit) fields texts) :
    Reads limit (.object fields) ('\x7b' :: listed texts ++ ['\x7d']) := by
  refine .of_step ⟨'\x7b', _, by rw [List.cons_append], by decide⟩ fun fuel rest hfuel _ => ?_
  cases h with
  | nil => rfl
  | @cons f cs fields texts hf hfields =>
    simp only [List.cons_append, List.append_assoc, List.nil_append, List.length_cons, List.length_append] at hfuel ⊢
    have hopens := opens_listed hf.opens texts
    have hread : members limit fuel (listed (cs :: texts) ++ '\x7d' :: rest) = .ok (f :: fields, rest) :=
      members_listed (by simp) (.cons hf hfields) (by omega)
    rw [value, hopens.skip_append]
    split
    · next heq => exact absurd heq (hopens.append_ne_cons (by decide) _ _)
    · simp only [hread, bind, Except.bind, pure, Except.pure, Assoc.ofPairs_of_nodup hdistinct]

/-! ### Whole texts -/

/-- The text of a value, which is printable ASCII and is read back. -/
structure Spells (limit : Option Nat) (v : Value) (cs : List Char) : Prop where
  text_eq : text limit v = .ok cs
  reads : Reads limit v cs
  visible : ∀ c ∈ cs, IsVisible c

theorem exists_elementTexts {vs : List Value} (h : ∀ v ∈ vs, ∃ cs, Spells limit v cs) :
    ∃ texts, elementTexts limit vs = .ok texts ∧ List.Forall₂ (Reads limit) vs texts ∧
      ∀ cs ∈ texts, ∀ c ∈ cs, IsVisible c := by
  induction vs with
  | nil => exact ⟨[], rfl, .nil, by simp⟩
  | cons v vs ih =>
    obtain ⟨cs, hcs⟩ := h v List.mem_cons_self
    obtain ⟨texts, htexts, hreads, hvisible⟩ := ih fun w hw => h w (List.mem_cons_of_mem _ hw)
    refine ⟨cs :: texts, ?_, .cons hcs.reads hreads, List.forall_mem_cons.2 ⟨hcs.visible, hvisible⟩⟩
    simp only [elementTexts, hcs.text_eq, htexts, bind, Except.bind, pure, Except.pure]

theorem exists_fieldTexts {fields : List (String × Value)} (h : ∀ f ∈ fields, ∃ cs, Spells limit f.2 cs) :
    ∃ texts, fieldTexts limit (fields.map fun f => ((f.1 : Text), f.2)) = .ok texts ∧
      List.Forall₂ (ReadsField limit) (fields.map fun f => ((f.1 : Text), f.2)) texts ∧
      ∀ cs ∈ texts, ∀ c ∈ cs, IsVisible c := by
  induction fields with
  | nil => exact ⟨[], rfl, .nil, by simp⟩
  | cons f fields ih =>
    obtain ⟨cs, hcs⟩ := h f List.mem_cons_self
    obtain ⟨texts, htexts, hreads, hvisible⟩ := ih fun g hg => h g (List.mem_cons_of_mem _ hg)
    have hfield : ∀ c ∈ fieldText f.1 cs, IsVisible c := by
      simp only [fieldText_eq, List.mem_append, List.mem_cons]
      rintro c (hc | rfl | rfl | hc)
      exacts [isVisible_stringText f.1 c hc, by decide, by decide, hcs.visible c hc]
    refine ⟨fieldText f.1 cs :: texts, ?_, .cons ⟨f.1, cs, rfl, hcs.reads, rfl⟩ hreads,
      List.forall_mem_cons.2 ⟨hfield, hvisible⟩⟩
    simp only [List.map_cons, fieldTexts, hcs.text_eq, htexts, bind, Except.bind, pure, Except.pure]

theorem nodup_keys {fields : List (String × Value)} (h : (fields.map Prod.fst).Nodup) :
    ((fields.map fun f => ((f.1 : Text), f.2)).map Prod.fst).Nodup := by
  have htexts := h.map (f := Text.ofString) fun _ _ => Text.ofString_injective
  simpa [Function.comp_def] using htexts

theorem Plain.exists_spells {v : Value} (h : Plain limit v) : ∃ cs, Spells limit v cs := by
  induction h with
  | null => exact ⟨_, rfl, reads_null, by simp [IsVisible]⟩
  | bool b => exact ⟨_, rfl, reads_bool b, by cases b <;> simp [IsVisible]⟩
  | @int n hn => exact ⟨decimal n, integerText_of_fits hn, reads_int hn, isVisible_decimal n⟩
  | string s => exact ⟨_, rfl, reads_string s, isVisible_stringText s⟩
  | array _ ih =>
    obtain ⟨texts, htexts, hreads, hvisible⟩ := exists_elementTexts ih
    refine ⟨_, ?_, reads_array hreads, isVisible_enclosed (by decide) (by decide) hvisible⟩
    simp only [text, htexts, bind, Except.bind, pure, Except.pure]
  | record hkeys _ ih =>
    obtain ⟨texts, htexts, hreads, hvisible⟩ := exists_fieldTexts ih
    refine ⟨_, ?_, reads_object (nodup_keys hkeys) hreads, isVisible_enclosed (by decide) (by decide) hvisible⟩
    simp only [Value.record, text, htexts, bind, Except.bind, pure, Except.pure]

/-- What is read as a value is the text of a document that holds it. -/
theorem Reads.parseWithin_eq {v : Value} {cs : List Char} (h : Reads limit v cs) : parseWithin limit cs = .ok v := by
  have hmark := h.opens.append_ne_cons (c := '\ufeff') (by decide) []
  have hskip := h.opens.skip_append []
  have hvalue : value limit (2 * cs.length + 2) (cs ++ []) = .ok (v, []) :=
    h.value_append (by omega) (by simp [Ends])
  rw [List.append_nil] at hmark hskip hvalue
  refine Outcome.mapError_eq_ok.2 ?_
  rw [document]
  · simp only [hskip, hvalue, bind, Except.bind]
    rfl
  · exact hmark

/-! ### Integers that are refused -/

mutual

/-- The integers that stand in a value, at any depth. -/
def integersIn : Value → List Int
  | .int n => [n]
  | .array elements => integersInElements elements
  | .object fields => integersInFields fields
  | _ => []

def integersInElements : List Value → List Int
  | [] => []
  | v :: vs => integersIn v ++ integersInElements vs

def integersInFields : List (Text × Value) → List Int
  | [] => []
  | (_, v) :: rest => integersIn v ++ integersInFields rest

end

/-- A result that is refused for an integer among `ns`, if there is one of too many digits, and is given otherwise. -/
def Refuses {α : Type} (limit : Option Nat) (ns : List Int) (r : Except LongInteger α) : Prop :=
  (∃ a, r = .ok a) ∧ (∀ n ∈ ns, Fits limit n) ∨ (∃ most ∈ limit, r = .error ⟨most⟩) ∧ ∃ n ∈ ns, ¬ Fits limit n

namespace Refuses

variable {α β γ : Type} {ms ns : List Int}

theorem ok (a : α) : Refuses limit [] (.ok a) := .inl ⟨⟨a, rfl⟩, by simp⟩

theorem map {r : Except LongInteger α} (h : Refuses limit ns r) (f : α → β) :
    Refuses limit ns (r >>= fun a => pure (f a)) := by
  rcases h with ⟨⟨a, rfl⟩, hfits⟩ | ⟨⟨most, hmost, rfl⟩, hlong⟩
  · exact .inl ⟨⟨f a, rfl⟩, hfits⟩
  · exact .inr ⟨⟨most, hmost, rfl⟩, hlong⟩

/-- Of two results the first that is refused counts. -/
theorem map₂ {r : Except LongInteger α} {s : Except LongInteger β} (hr : Refuses limit ms r) (hs : Refuses limit ns s)
    (f : α → β → γ) : Refuses limit (ms ++ ns) (r >>= fun a => s >>= fun b => pure (f a b)) := by
  rcases hr with ⟨⟨a, rfl⟩, hms⟩ | ⟨⟨most, hmost, rfl⟩, n, hn, hlong⟩
  · rcases hs with ⟨⟨b, rfl⟩, hns⟩ | ⟨⟨most, hmost, rfl⟩, n, hn, hlong⟩
    · exact .inl ⟨⟨f a b, rfl⟩, List.forall_mem_append.2 ⟨hms, hns⟩⟩
    · exact .inr ⟨⟨most, hmost, rfl⟩, n, List.mem_append_right _ hn, hlong⟩
  · exact .inr ⟨⟨most, hmost, rfl⟩, n, List.mem_append_left _ hn, hlong⟩

end Refuses

mutual

/-- A value has a text unless one of its integers has too many digits. -/
theorem refuses_text (limit : Option Nat) : ∀ v : Value, Refuses limit (integersIn v) (text limit v)
  | .null => .ok _
  | .bool _ => .ok _
  | .int n => by
    by_cases h : Fits limit n
    · exact .inl ⟨⟨_, integerText_of_fits h⟩, List.forall_mem_singleton.2 h⟩
    · exact .inr ⟨integerText_of_not_fits h, n, List.mem_singleton_self n, h⟩
  | .float _ => .ok _
  | .string _ => .ok _
  | .array elements => (refuses_elementTexts limit elements).map _
  | .object fields => (refuses_fieldTexts limit fields).map _

theorem refuses_elementTexts (limit : Option Nat) :
    ∀ vs : List Value, Refuses limit (integersInElements vs) (elementTexts limit vs)
  | [] => .ok _
  | v :: vs => (refuses_text limit v).map₂ (refuses_elementTexts limit vs) _

theorem refuses_fieldTexts (limit : Option Nat) :
    ∀ fields : List (Text × Value), Refuses limit (integersInFields fields) (fieldTexts limit fields)
  | [] => .ok _
  | (key, v) :: rest => (refuses_text limit v).map₂ (refuses_fieldTexts limit rest) (fun cs => (fieldText key cs :: ·))

end

end ContractLint.Json
