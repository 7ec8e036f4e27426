import SqlTemplate.Unicode.Ranges

/-!
# Hangul syllables

A syllable is one code point, or a sequence of letters: leading consonants, vowels, trailing
consonants. The vowel signs of Kirat Rai join one another as these vowels do. The tables are the
property `Hangul_Syllable_Type` of Unicode 17.
-/

namespace SqlTemplate.Unicode

/-- Ranges of the leading consonants, in ascending order. -/
def leadingRanges : Array (Nat × Nat) := #[
  (0x1100, 0x115F), (0xA960, 0xA97C)]

/-- Ranges of the vowels, in ascending order. -/
def vowelRanges : Array (Nat × Nat) := #[
  (0x1160, 0x11A7), (0xD7B0, 0xD7C6), (0x16D63, 0x16D63), (0x16D67, 0x16D6A)]

/-- Ranges of the trailing consonants, in ascending order. -/
def trailingRanges : Array (Nat × Nat) := #[
  (0x11A8, 0x11FF), (0xD7CB, 0xD7FB)]

/-- Holds of a whole syllable. -/
def isSyllable (c : Char) : Bool :=
  0xAC00 ≤ c.toNat && c.toNat ≤ 0xD7A3

/-- Holds of a whole syllable without a trailing consonant; each of them is followed by the 27 that
it forms with one. -/
def isOpenSyllable (c : Char) : Bool :=
  isSyllable c && (c.toNat - 0xAC00) % 28 == 0

/-- Holds of what a vowel or a trailing consonant can follow in a syllable. -/
def endsInVowel (c : Char) : Bool :=
  inRanges vowelRanges c || isOpenSyllable c

/-- Holds of what ends in a trailing consonant. -/
def endsInTrailing (c : Char) : Bool :=
  inRanges trailingRanges c || (isSyllable c && !isOpenSyllable c)

/-- Whether `a` and `b`, which follows it, belong to one syllable. -/
def shareSyllable (a b : Char) : Bool :=
  (inRanges leadingRanges a &&
      (inRanges leadingRanges b || inRanges vowelRanges b || isSyllable b)) ||
    (endsInVowel a && (inRanges vowelRanges b || inRanges trailingRanges b)) ||
    (endsInTrailing a && inRanges trailingRanges b)

end SqlTemplate.Unicode
