/-! Texts as sequences of code points. An escape in JSON can name one half of a surrogate pair without the other;
such a half is a code point but no character. All other code points are characters. -/

namespace ContractLint

/-- A character, or a surrogate that stands alone, given by its distance from the first surrogate. -/
inductive CodePoint where
  | char (c : Char)
  | surrogate (offset : Fin 0x800)
  deriving DecidableEq, Repr

@[ext]
structure Text where
  points : List CodePoint := []
  deriving DecidableEq, Repr, Inhabited

namespace CodePoint

instance : Coe Char CodePoint := ⟨.char⟩

def toNat : CodePoint → Nat
  | .char c => c.toNat
  | .surrogate offset => 0xd800 + offset

/-- The code point of a code unit. -/
def ofUnit (u : Nat) : CodePoint :=
  if h : 0xd800 ≤ u ∧ u < 0xe000 then .surrogate ⟨u - 0xd800, by omega⟩ else .char (Char.ofNat u)

def char? : CodePoint → Option Char
  | .char c => some c
  | .surrogate _ => none

/-- The character, or the replacement character for a surrogate. -/
def toChar (p : CodePoint) : Char := p.char?.getD '\ufffd'

end CodePoint

namespace Text

def ofChars (cs : List Char) : Text := ⟨cs.map .char⟩

def ofString (s : String) : Text := ofChars s.toList

instance : Coe String Text := ⟨ofString⟩

instance : Append Text := ⟨fun t u => ⟨t.points ++ u.points⟩⟩

/-- The texts with a separator between them. -/
def join (separator : Text) (texts : List Text) : Text := ⟨separator.points.intercalate (texts.map points)⟩

def isEmpty (t : Text) : Bool := t.points.isEmpty

/-- The characters of a text, with replacement characters for its surrogates. -/
def chars (t : Text) : List Char := t.points.map CodePoint.toChar

/-- The string that a text is, if no surrogate stands in it. -/
def string? (t : Text) : Option String := (t.points.mapM CodePoint.char?).map String.ofList

/-- Texts are compared by their code points from the front. -/
def compare (t u : Text) : Ordering := Ord.compare (t.points.map CodePoint.toNat) (u.points.map CodePoint.toNat)

@[simp] theorem points_append (t u : Text) : (t ++ u).points = t.points ++ u.points := rfl

@[simp] theorem string?_ofString (s : String) : (ofString s).string? = some s := by
  have h (cs : List Char) : (cs.map CodePoint.char).mapM CodePoint.char? = some cs := by
    induction cs with
    | nil => rfl
    | cons c cs ih => simp [CodePoint.char?, ih]
  simp [string?, ofString, ofChars, h]

theorem string?_eq_some_iff {t : Text} {s : String} : t.string? = some s ↔ t = ofString s := by
  constructor
  · intro h
    obtain ⟨cs, hcs, rfl⟩ := Option.map_eq_some_iff.1 h
    have hchars : ∀ (points : List CodePoint) (cs : List Char),
        points.mapM CodePoint.char? = some cs → points = cs.map .char := by
      intro points
      induction points with
      | nil => intro cs h; simp at h; simp [h]
      | cons p points ih =>
        intro cs h
        cases p with
        | surrogate offset => simp [CodePoint.char?] at h
        | char c =>
          simp only [List.mapM_cons, CodePoint.char?, Option.pure_def, Option.bind_eq_bind, Option.bind_some,
            Option.bind_eq_some_iff, Option.some.injEq] at h
          obtain ⟨rest, hrest, rfl⟩ := h
          rw [ih rest hrest, List.map_cons]
    rw [ofString, ofChars, String.toList_ofList, ← hchars _ cs hcs]
  · rintro rfl
    exact string?_ofString s

theorem ofString_injective {s t : String} (h : ofString s = ofString t) : s = t := by
  have hstring := string?_ofString s
  rw [h, string?_ofString] at hstring
  exact (Option.some.inj hstring).symm

end Text

end ContractLint
