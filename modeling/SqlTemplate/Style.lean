/-!
# Parameter styles

A style is the character that introduces a named parameter in a template, its sigil. Any ASCII
punctuation will do, except what names are made of and what has a meaning of its own in a template.
-/

namespace SqlTemplate

/-- The characters that the segments of a parameter name are made of. -/
def isNameChar (c : Char) : Bool :=
  c.isAlphanum || c == '_'

/-- The punctuation characters of ASCII. -/
def isPunctuation (c : Char) : Bool :=
  let n := c.toNat
  (33 ≤ n && n ≤ 47) || (58 ≤ n && n ≤ 64) || (91 ≤ n && n ≤ 96) || (123 ≤ n && n ≤ 126)

/-- The characters that keep a meaning of their own in every style. -/
def reservedChars : List Char :=
  ['?', '\'', '"', '\\', '-', '/', '*', '.']

/-- Whether a character can introduce named parameters. -/
def isSigil (c : Char) : Bool :=
  isPunctuation c && !isNameChar c && !reservedChars.contains c

/-- The convention by which a template marks its named parameters. -/
structure Style where
  sigil : Char
  admitted : isSigil sigil = true
  deriving DecidableEq

namespace Style

/-- Names after a colon, the default. -/
def colon : Style := ⟨':', by decide⟩

/-- Names after a number sign. -/
def hash : Style := ⟨'#', by decide⟩

/-- Names after a dollar sign. -/
def dollar : Style := ⟨'$', by decide⟩

instance : Inhabited Style := ⟨colon⟩

theorem sigil_not_nameChar (s : Style) : isNameChar s.sigil = false := by
  have h := s.admitted
  simp only [isSigil, Bool.and_eq_true, Bool.not_eq_true'] at h
  exact h.1.2

theorem sigil_ne_of_reserved (s : Style) {c : Char} (hc : c ∈ reservedChars) : s.sigil ≠ c := by
  rintro rfl
  have h := s.admitted
  simp [isSigil, hc] at h

/-- A sigil is an ASCII character. -/
theorem sigil_lt (s : Style) : s.sigil.toNat < 0x80 := by
  have h := s.admitted
  simp only [isSigil, isPunctuation, Bool.and_eq_true, Bool.or_eq_true, decide_eq_true_eq] at h
  omega

/-- The style with a given sigil, none for a character that cannot be one. -/
def ofChar? (c : Char) : Option Style :=
  if admitted : isSigil c = true then some ⟨c, admitted⟩ else none

/-- The marker of a named parameter. -/
def marker (s : Style) (name : String) : String :=
  String.singleton s.sigil ++ name

end Style

end SqlTemplate
