import SqlTemplate.Number.Binary
import SqlTemplate.Number.Integer

/-!
# Decimal numbers with a scale

A decimal is a whole number of at most 96 bits with a sign and with the number of its fraction
digits. The scale is part of the decimal, so `1.5` and `1.50` are different decimals that stand for
one number.
-/

namespace SqlTemplate

/-- The number of bits for the digits. -/
def Decimal.mantissaBits : Nat := 96

/-- `mantissa / 10 ^ scale`, with a sign. -/
structure Decimal where
  negative : Bool
  mantissa : Nat
  scale : Nat
  mantissa_lt : mantissa < twoTo Decimal.mantissaBits
  scale_le : scale ≤ 28
  deriving DecidableEq

namespace Decimal

/-- The decimal of the given parts, none when they are out of range. -/
def ofParts? (negative : Bool) (mantissa scale : Nat) : Option Decimal :=
  if fits : mantissa < twoTo mantissaBits ∧ scale ≤ 28 then
    some ⟨negative, mantissa, scale, fits.1, fits.2⟩
  else
    none

/-- The number as a count of units of the greatest scale. -/
def units (d : Decimal) : Int :=
  let magnitude : Int := d.mantissa * tenTo (28 - d.scale)
  if d.negative then -magnitude else magnitude

/-- Equality of numbers, whatever their scales. -/
def numericEq (d e : Decimal) : Bool :=
  d.units == e.units

/-- Whether no fraction digit differs from zero. -/
def isWhole (d : Decimal) : Bool :=
  d.mantissa % tenTo d.scale == 0

/-- The number without its fraction digits. -/
def truncated (d : Decimal) : Int :=
  let magnitude : Int := (d.mantissa / tenTo d.scale : Nat)
  if d.negative then -magnitude else magnitude

/-- The decimal of scale zero for an integer of a fixed width. -/
def ofInteger {k : IntKind} (n : Integer k) : Decimal where
  negative := decide (n.value < 0)
  mantissa := n.value.natAbs
  scale := 0
  mantissa_lt := by
    obtain ⟨v, low, high⟩ := n
    cases k <;>
      simp [twoTo, mantissaBits, IntKind.least, IntKind.greatest, IntKind.signed, IntKind.bits]
        at low high ⊢ <;>
      omega
  scale_le := Nat.zero_le _

/-- All digits of the number: a minus sign, the whole part, and as many fraction digits as the scale
says. -/
def text (d : Decimal) : String :=
  let digits := Nat.toDigits 10 d.mantissa
  let padded := List.replicate (d.scale + 1 - digits.length) '0' ++ digits
  let point := padded.length - d.scale
  String.ofList
    ((if d.negative then ['-'] else []) ++ padded.take point ++
      if d.scale = 0 then [] else '.' :: padded.drop point)

/-! ## Conversion to floating point -/

/-- The double nearest to a number that is not negative. -/
def double (x : Rat) : Binary .double :=
  Binary.nearest .double false x

/-- A number rounded to a whole one, a half upwards. -/
def roundedHalfUp (x : Rat) : Rat :=
  ((x + mkRat 1 2).floor : Rat)

/-- The double for the magnitude. Whole part and fraction are rounded on their own; their sum is
rounded to the scale again, so that the digits of the decimal survive. -/
def magnitudeToDouble (d : Decimal) : Binary .double :=
  let unit : Nat := tenTo d.scale
  let whole := double ((d.mantissa / unit : Nat) : Rat)
  let scale := double (unit : Rat)
  let fraction := double ((double ((d.mantissa % unit : Nat) : Rat)).size / scale.size)
  if d.scale = 0 || fraction.isZero then whole
  else
    let scaled := double ((double (whole.size + fraction.size)).size * scale.size)
    double (roundedHalfUp scaled.size / scale.size)

/-- The double for a decimal. -/
def toDouble (d : Decimal) : Binary .double :=
  d.magnitudeToDouble.withSign d.negative

/-! ## Conversion from floating point -/

/-- Whether a mantissa fits the decimal. -/
def fits (bits : Nat) : Bool := bits < twoTo mantissaBits

/-- Trades `k` halves for tenths: the number `bits * 2 ^ -k * 10 ^ e` as a mantissa and a power of
ten. Digits that do not fit are dropped. -/
def tradeHalves : Nat → Nat → Int → Nat × Int
  | 0, bits, e => (bits, e)
  | k + 1, bits, e =>
    if bits % 2 = 0 then tradeHalves k (bits / 2) (e + 1)
    else if fits (bits * 5) then tradeHalves k (bits * 5) e
    else tradeHalves k (bits / 2) (e + 1)

/-- Trades `k` factors of two that are written as tens: a doubling where the mantissa has room, a
fifth where it has none; none when the number is too large. -/
def tradeDoubles : Nat → Nat → Int → Option (Nat × Int)
  | 0, bits, e => some (bits, e)
  | k + 1, bits, e =>
    if fits (2 * bits) then tradeDoubles k (2 * bits) (e - 1)
    else if (k + 1 : Int) < 2 * e then none
    else tradeDoubles k (bits / 5) e

/-- Multiplies the remaining powers of ten out. -/
def expandTens : Nat → Nat → Option Nat
  | 0, bits => some bits
  | k + 1, bits => if fits (bits * 10) then expandTens k (bits * 10) else none

/-- Drops digits until the power of ten is not below the least scale; `k` digits are too many. -/
def dropTens : Nat → Nat → Int → Nat × Int
  | 0, bits, e => (bits, e)
  | k + 1, bits, e =>
    if bits / 10 = 0 then (0, 0)
    else dropTens k (if 5 ≤ bits % 10 then bits / 10 + 1 else bits / 10) (e + 1)

/-- Drops digits beyond the precision of the format, rounding a half up. -/
def dropExcess (precision : Nat) : Nat → Nat → Nat × Nat
  | bits, 0 => (bits, 0)
  | bits, scale + 1 =>
    if twoTo precision ≤ bits then
      dropExcess precision (if 5 ≤ bits % 10 then bits / 10 + 1 else bits / 10) scale
    else
      (bits, scale + 1)

/-- Drops zeros at the end of the fraction digits. -/
def dropZeros : Nat → Nat → Nat × Nat
  | bits, 0 => (bits, 0)
  | bits, scale + 1 => if bits % 10 = 0 then dropZeros (bits / 10) scale else (bits, scale + 1)

/-- The number of significant bits that a decimal keeps of a format: those of its fraction, and
never fewer than 24. -/
def keptBits (f : BinaryFormat) : Nat :=
  max 24 f.fractionBits

/-- The decimal for a floating point number, as many digits as its format has; none for what is not
a finite number and for what is too large. -/
def ofBinary? {f : BinaryFormat} (x : Binary f) : Option Decimal :=
  if !x.isFinite then none
  else if x.isZero then ofParts? x.negative 0 0
  else do
    let e := x.exponent
    let (bits, e) ←
      if e ≤ 0 then some (tradeHalves (-e).toNat x.significand e)
      else tradeDoubles e.toNat x.significand e
    let bits ← expandTens e.toNat bits
    let (bits, e) := dropTens (-28 - e).toNat bits e
    let (bits, scale) := dropExcess (keptBits f) bits (-e).toNat
    let (bits, scale) := dropZeros bits scale
    ofParts? x.negative bits scale

end Decimal

end SqlTemplate
