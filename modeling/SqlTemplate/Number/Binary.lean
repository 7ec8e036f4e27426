import SqlTemplate.Number.Power

/-!
# Binary floating point numbers

The two binary interchange formats of IEEE 754 as words of bits. Sign, exponent field and fraction
are read off the word by division; arithmetic is exact on rational numbers and rounds once, to the
nearest word and to the even one of two equally near.
-/

namespace SqlTemplate

/-- The widths of the fields of a binary interchange format. -/
structure BinaryFormat where
  fractionBits : Nat
  exponentBits : Nat

namespace BinaryFormat

/-- Four bytes. -/
def single : BinaryFormat := ⟨23, 8⟩

/-- Eight bytes. -/
def double : BinaryFormat := ⟨52, 11⟩

/-- The number of bits after the sign. -/
def magnitudeBits (f : BinaryFormat) : Nat := f.exponentBits + f.fractionBits

/-- The exponent field of infinities and of what is not a number. -/
def topField (f : BinaryFormat) : Nat := twoTo f.exponentBits - 1

/-- The exponent of the last fraction bit of the least numbers. -/
def leastExponent (f : BinaryFormat) : Int :=
  2 - twoTo (f.exponentBits - 1) - f.fractionBits

/-- The magnitude of infinity as a word. -/
def infinityWord (f : BinaryFormat) : Nat := f.topField * twoTo f.fractionBits

theorem infinityWord_lt (f : BinaryFormat) : f.infinityWord < twoTo f.magnitudeBits := by
  have below : f.topField < twoTo f.exponentBits :=
    Nat.sub_lt (twoTo_pos _) Nat.one_pos
  rw [infinityWord, magnitudeBits, twoTo_add]
  exact Nat.mul_lt_mul_of_pos_right below (twoTo_pos _)

end BinaryFormat

/-- A word of a binary format: the sign, and the exponent field and fraction as one number. -/
structure Binary (f : BinaryFormat) where
  negative : Bool
  magnitude : Nat
  magnitude_lt : magnitude < twoTo f.magnitudeBits
  deriving DecidableEq

namespace Binary

variable {f : BinaryFormat}

/-- The exponent field. -/
def field (x : Binary f) : Nat := x.magnitude / twoTo f.fractionBits

/-- The fraction field. -/
def fraction (x : Binary f) : Nat := x.magnitude % twoTo f.fractionBits

/-- Whether the word stands for no number. -/
def isNaN (x : Binary f) : Bool := x.field == f.topField && x.fraction != 0

/-- Whether the word stands for an infinity. -/
def isInfinite (x : Binary f) : Bool := x.field == f.topField && x.fraction == 0

/-- Whether the word stands for a number. -/
def isFinite (x : Binary f) : Bool := x.field != f.topField

/-- Whether the word is one of the two zeros. -/
def isZero (x : Binary f) : Bool := x.magnitude == 0

/-- The significand as a whole number: the fraction, with the hidden bit where there is one. -/
def significand (x : Binary f) : Nat :=
  if x.field = 0 then x.fraction else twoTo f.fractionBits + x.fraction

/-- The exponent of the last bit of the significand. -/
def exponent (x : Binary f) : Int :=
  f.leastExponent + (max x.field 1 - 1)

/-- The word as one number, the sign being its highest bit. -/
def word (x : Binary f) : Nat :=
  (if x.negative then twoTo f.magnitudeBits else 0) + x.magnitude

/-- The word with given bits, which are the lowest of `n`. -/
def ofWord (f : BinaryFormat) (n : Nat) : Binary f :=
  ⟨n / twoTo f.magnitudeBits % 2 == 1, n % twoTo f.magnitudeBits, Nat.mod_lt _ (twoTo_pos _)⟩

/-- Equality of numbers: what is not a number differs from everything, the zeros are equal. -/
def numericEq (x y : Binary f) : Bool :=
  !x.isNaN && !y.isNaN && (decide (x = y) || x.isZero && y.isZero)

/-- A power of two with any exponent. -/
def twoPow (e : Int) : Rat :=
  if 0 ≤ e then twoTo e.toNat else mkRat 1 (twoTo (-e).toNat)

/-- The magnitude of a finite word as a number. -/
def size (x : Binary f) : Rat :=
  x.significand * twoPow x.exponent

/-- The word's infinity of a sign. -/
def infinity (f : BinaryFormat) (negative : Bool) : Binary f :=
  ⟨negative, f.infinityWord, f.infinityWord_lt⟩

/-- The zero of a sign. -/
def zero (f : BinaryFormat) (negative : Bool) : Binary f :=
  ⟨negative, 0, twoTo_pos _⟩

/-- The word of a magnitude that is not greater than the one of infinity. -/
def ofMagnitude (f : BinaryFormat) (negative : Bool) (word : Nat) : Binary f :=
  ⟨negative, min word f.infinityWord, Nat.lt_of_le_of_lt (Nat.min_le_right ..) f.infinityWord_lt⟩

/-- A quotient rounded to the nearest whole number, a half to the even neighbour. -/
def roundedQuotient (n d : Nat) : Nat :=
  let below := n / d
  let twice := 2 * (n % d)
  if twice < d then below
  else if d < twice then below + 1
  else below + below % 2

/-- The exponent of the last significand bit for the positive number `n / d`. -/
def exponentFor (f : BinaryFormat) (n d : Nat) : Int :=
  let guess : Int := (Nat.log2 n : Int) - Nat.log2 d - 1 - f.fractionBits
  let scaled := (mkRat n d / twoPow guess).floor
  max f.leastExponent (if scaled < twoTo (f.fractionBits + 1) then guess else guess + 1)

/-- The word nearest to a number of the given sign and magnitude. -/
def nearest (f : BinaryFormat) (negative : Bool) (x : Rat) : Binary f :=
  let n := x.num.natAbs
  if n = 0 then zero f negative
  else
    let e := exponentFor f n x.den
    let scaled := mkRat n x.den / twoPow e
    let steps := (e - f.leastExponent).toNat
    ofMagnitude f negative
      (steps * twoTo f.fractionBits + roundedQuotient scaled.num.natAbs scaled.den)

/-- The word nearest to a whole number. -/
def ofInt (f : BinaryFormat) (n : Int) : Binary f :=
  nearest f (n < 0) (n.natAbs : Rat)

/-- What is not a number: every bit after the sign set. -/
def quietNaN (f : BinaryFormat) : Binary f :=
  ⟨false, twoTo f.magnitudeBits - 1, Nat.sub_lt (twoTo_pos _) Nat.one_pos⟩

/-- The same number in another format, rounded where that is narrower. -/
def convert (g : BinaryFormat) (x : Binary f) : Binary g :=
  if x.isNaN then quietNaN g
  else if x.isInfinite then infinity g x.negative
  else nearest g x.negative x.size

/-- The word with a sign. -/
def withSign (x : Binary f) (negative : Bool) : Binary f :=
  { x with negative }

end Binary

end SqlTemplate
