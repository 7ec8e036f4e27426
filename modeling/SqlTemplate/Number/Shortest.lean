import SqlTemplate.Number.Binary

/-!
# The fewest digits that read back

A finite word stands for every real number that rounds to it. Its shortest decimal has the fewest
digits among the decimals in that interval, and is nearest to the word's own number among those of
that many digits; of two equally near ones it is the greater.
-/

namespace SqlTemplate

/-- A positive decimal number: `digits`, the last one standing for `10 ^ exponent`. -/
structure ShortDecimal where
  digits : Nat
  exponent : Int

namespace ShortDecimal

/-- A power of ten with any exponent. -/
def tenPow (e : Int) : Rat :=
  if 0 ≤ e then tenTo e.toNat else mkRat 1 (tenTo (-e).toNat)

/-- The number of decimal digits of `n`. -/
def digitCount (n : Nat) : Nat :=
  (Nat.toDigits 10 n).length

/-- The least `p` such that the positive number `x` is below `10 ^ p`. -/
def pointOf (x : Rat) : Int :=
  let n := x.num.natAbs
  if x.den ≤ n then digitCount (n / x.den) else 1 - (digitCount ((x.den - 1) / n) : Int)

/-- The real numbers that round to one word, as an interval. -/
structure Rounding where
  low : Rat
  high : Rat
  closed : Bool

/-- The interval of a finite word. Half the distance to each neighbour belongs to it; the lower
neighbour is nearer where the exponent changes. -/
def Rounding.ofBinary {f : BinaryFormat} (x : Binary f) : Rounding :=
  let half := Binary.twoPow (x.exponent - 1)
  let below := if x.fraction = 0 ∧ 1 < x.field then half / 2 else half
  ⟨x.size - below, x.size + half, x.significand % 2 == 0⟩

/-- Whether a number lies in the interval. -/
def Rounding.holds (r : Rounding) (y : Rat) : Bool :=
  if r.closed then r.low ≤ y && y ≤ r.high else r.low < y && y < r.high

/-- The decimal of `count` digits nearest to `x` that lies in the interval. -/
def ofDigits? (r : Rounding) (x : Rat) (count : Nat) : Option ShortDecimal :=
  let exponent := pointOf x - count
  let unit := tenPow exponent
  let below := (x / unit).floor.toNat
  let above := below + 1
  if r.holds (below * unit) then
    if r.holds (above * unit) && above * unit - x ≤ x - below * unit then some ⟨above, exponent⟩
    else some ⟨below, exponent⟩
  else if r.holds (above * unit) then some ⟨above, exponent⟩
  else none

/-- The number of digits with which every word of both formats reads back. -/
def enoughDigits : Nat := 17

/-- The shortest decimal of a finite word other than zero. -/
def ofBinary {f : BinaryFormat} (x : Binary f) : ShortDecimal :=
  let r := Rounding.ofBinary x
  let found := (List.range' 1 enoughDigits).findSome? (ofDigits? r x.size)
  found.getD ⟨x.size.floor.toNat, 0⟩

/-- The digits without zeros at the end, and the position of the decimal point counted from their
front. -/
def layout (d : ShortDecimal) : List Char × Int :=
  let all := Nat.toDigits 10 d.digits
  ((all.reverse.dropWhile (· == '0')).reverse, all.length + d.exponent)

end ShortDecimal

end SqlTemplate
